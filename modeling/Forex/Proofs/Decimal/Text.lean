import Forex.Amount
import Forex.Proofs.Text.Digits
import Mathlib.Tactic.Ring

namespace Forex.Decimal

open Text

theorem units_unsignZero (a : Decimal) : a.unsignZero.units = a.units := by
  by_cases h : a.mantissa = 0
  · rw [units_eq_zero_iff.2 h, units_eq_zero_iff.2 (show a.unsignZero.mantissa = 0 from h)]
  · simp [units, signed, unsignZero, isZero, h]

variable {m n d scale : Nat} {point : Bool}

theorem scanDigits_digit (cs : List Char) (hd : d < 10) (hs : scale < 28)
    (hm : 10 * m + d < mantissaBound) :
    scanDigits point m scale (d.digitChar :: cs) =
      scanDigits point (10 * m + d) (if point then scale + 1 else scale) cs := by
  simp only [scanDigits, digit?_digitChar hd, if_neg hs.ne, if_pos hm]

theorem scanDigits_toDigits (rest : List Char) (hn : n < mantissaBound) :
    scanDigits false 0 0 (Nat.toDigits 10 n ++ rest) = scanDigits false n 0 rest := by
  induction n using Nat.strongRecOn generalizing rest with
  | ind n ih =>
    by_cases h : n < 10
    · rw [Nat.toDigits_of_lt_base h, List.singleton_append,
        scanDigits_digit rest h (by decide) (by omega), Nat.mul_zero, Nat.zero_add]
      rfl
    · have hmod : n % 10 < 10 := Nat.mod_lt n (by decide)
      have hdiv : 10 * (n / 10) + n % 10 = n := Nat.div_add_mod n 10
      rw [Nat.toDigits_of_base_le (by decide) (by omega), List.append_assoc,
        ih (n / 10) (by omega) _ (by omega), List.singleton_append,
        scanDigits_digit rest hmod (by decide) (by omega), hdiv]
      rfl

theorem scanDigits_lastDigits (k : Nat) (rest : List Char) (hn : n < mantissaBound)
    (hs : scale + k ≤ 28) :
    scanDigits true (n / tenTo k) scale (lastDigits k n ++ rest) =
      scanDigits true n (scale + k) rest := by
  induction k generalizing n rest with
  | zero => rw [tenTo_zero, Nat.div_one]; rfl
  | succ k ih =>
    have hmod : n % 10 < 10 := Nat.mod_lt n (by decide)
    have hdiv : 10 * (n / 10) + n % 10 = n := Nat.div_add_mod n 10
    rw [lastDigits, List.append_assoc, tenTo_succ, Nat.mul_comm, ← Nat.div_div_eq_div_mul,
      ih _ (by omega) (by omega), List.singleton_append,
      scanDigits_digit rest hmod (by omega) (by omega), hdiv]
    rfl

theorem scanStart_digits {cs : List Char} (h : ∃ d cs', d < 10 ∧ cs = d.digitChar :: cs') :
    scanStart false cs = scanDigits false 0 0 cs := by
  obtain ⟨d, cs', hd, rfl⟩ := h
  have hlt : 10 * 0 + d < mantissaBound := by rw [mantissaBound_eq]; omega
  rw [scanDigits_digit cs' hd (by decide) hlt, Nat.mul_zero, Nat.zero_add]
  simp only [scanStart, digit?_digitChar hd]

def unsignedChars (a : Decimal) : List Char :=
  Nat.toDigits 10 (a.mantissa / tenTo a.scale) ++
    if a.scale = 0 then [] else '.' :: lastDigits a.scale a.mantissa

theorem toChars_eq (a : Decimal) :
    a.toChars = if a.negative then '-' :: a.unsignedChars else a.unsignedChars := by
  simp only [toChars, unsignedChars, List.append_assoc]
  split <;> rfl

theorem exists_unsignedChars_eq_cons (a : Decimal) :
    ∃ d cs, d < 10 ∧ a.unsignedChars = d.digitChar :: cs := by
  obtain ⟨d, cs, hd, -, h⟩ := exists_toDigits_eq_cons (a.mantissa / tenTo a.scale)
  exact ⟨d, _, hd, by rw [unsignedChars, h, List.cons_append]⟩

theorem scanStart_unsignedChars (a : Decimal) :
    scanStart false a.unsignedChars = some (a.mantissa, a.scale) := by
  have hm := a.mantissa_lt
  have hs := a.scale_le
  have hdiv := Nat.div_le_self a.mantissa (tenTo a.scale)
  rw [scanStart_digits a.exists_unsignedChars_eq_cons, unsignedChars,
    scanDigits_toDigits _ (by omega)]
  split
  case isTrue h =>
    rw [h, tenTo_zero, Nat.div_one]
    rfl
  case isFalse =>
    have hpoint : ∀ m cs, scanDigits false m 0 ('.' :: cs) = scanDigits true m 0 cs :=
      fun _ _ ↦ rfl
    have hread := scanDigits_lastDigits (n := a.mantissa) a.scale [] hm
      (show 0 + a.scale ≤ 28 by omega)
    rw [List.append_nil, Nat.zero_add] at hread
    rw [hpoint, hread]
    rfl

theorem parsePlain?_digits {cs : List Char} (h : ∃ d cs', d < 10 ∧ cs = d.digitChar :: cs') :
    parsePlain? cs = (scanStart false cs).bind fun m ↦ ofParts? false m.1 m.2 := by
  obtain ⟨d, cs', -, rfl⟩ := h
  have hminus : d.digitChar ≠ '-' := Nat.digitChar_ne _ (by decide)
  have hplus : d.digitChar ≠ '+' := Nat.digitChar_ne _ (by decide)
  unfold parsePlain?
  split
  case h_1 h => exact absurd (List.cons.inj h).1 hminus
  case h_2 h => exact absurd (List.cons.inj h).1 hplus
  case h_3 =>
    have hsign : (some d.digitChar == some '-') = false := beq_false_of_ne (by simp)
    rw [List.head?_cons, hsign]
    rfl

theorem parsePlain?_toChars (a : Decimal) : parsePlain? a.toChars = some a.unsignZero := by
  have hparts : ofParts? (a.negative && a.mantissa != 0) a.mantissa a.scale =
      some a.unsignZero := dif_pos ⟨a.mantissa_lt, a.scale_le⟩
  have hread := a.scanStart_unsignedChars
  rw [toChars_eq]
  cases hneg : a.negative with
  | true =>
    rw [hneg] at hparts
    simp only [if_true, parsePlain?, hread, Option.bind_some]
    exact hparts
  | false =>
    rw [hneg] at hparts
    rw [if_neg (by decide), parsePlain?_digits a.exists_unsignedChars_eq_cons, hread,
      Option.bind_some]
    exact hparts

theorem isBlank_of_mem_toChars {a : Decimal} {c : Char} (h : c ∈ a.toChars) :
    isBlank c = false := by
  simp only [toChars, List.mem_append] at h
  rcases h with (h | h) | h
  · split at h
    case isTrue => obtain rfl := List.mem_singleton.1 h; decide
    case isFalse => cases h
  · exact isBlank_of_isDigit (isDigit_of_mem_toDigits h)
  · split at h
    case isTrue => cases h
    case isFalse =>
      rcases List.mem_cons.1 h with rfl | h
      · decide
      · exact isBlank_of_isDigit (isDigit_of_mem_lastDigits h)

theorem parse?_toText (a : Decimal) : parse? a.toText = some a.unsignZero := by
  rw [parse?, toText, String.toList_ofList, parsePlain?_toChars]
  rfl

theorem ofText_toText (a : Decimal) : ofText a.toText = a.unsignZero := by
  have htrim : trim a.toText = a.toText := trim_ofList fun _ h ↦ isBlank_of_mem_toChars h
  rw [ofText, htrim, parse?_toText]
  rfl

end Forex.Decimal
