import Forex.Power
import Forex.Text.Blank
import Forex.Text.Digits

namespace Forex.Text

variable {n d : Nat}

theorem digit?_digitChar (h : d < 10) : digit? d.digitChar = some d := by
  rw [digit?, if_pos (by rw [Nat.isDigit_digitChar, decide_eq_true h]),
    Nat.toNat_digitChar_sub_48_of_lt_ten h]

theorem isDigit_digitChar_mod (n : Nat) : (n % 10).digitChar.isDigit := by
  rw [Nat.isDigit_digitChar, decide_eq_true (Nat.mod_lt n (by decide))]

theorem toDigits_induct {P : Nat → List Char → Prop}
    (digit : ∀ d, d < 10 → P d [d.digitChar])
    (more : ∀ n, 10 ≤ n → P (n / 10) (Nat.toDigits 10 (n / 10)) →
      P n (Nat.toDigits 10 (n / 10) ++ [(n % 10).digitChar])) (n : Nat) :
    P n (Nat.toDigits 10 n) := by
  induction n using Nat.strongRecOn with
  | ind n ih =>
    by_cases h : n < 10
    · rw [Nat.toDigits_of_lt_base h]
      exact digit n h
    · rw [Nat.toDigits_of_base_le (by decide) (by omega)]
      exact more n (by omega) (ih (n / 10) (by omega))

theorem isDigit_of_mem_toDigits {c : Char} (h : c ∈ Nat.toDigits 10 n) : c.isDigit :=
  Nat.isDigit_of_mem_toDigits (by decide) (by decide) h

theorem exists_toDigits_eq_cons (n : Nat) :
    ∃ d cs, d < 10 ∧ (d = 0 → n = 0) ∧ Nat.toDigits 10 n = d.digitChar :: cs := by
  let P (n : Nat) (ds : List Char) : Prop :=
    ∃ d cs, d < 10 ∧ (d = 0 → n = 0) ∧ ds = d.digitChar :: cs
  refine toDigits_induct (P := P) ?_ ?_ n
  · exact fun d hd ↦ ⟨d, [], hd, id, rfl⟩
  · rintro n hn ⟨d, cs, hd, hzero, h⟩
    exact ⟨d, cs ++ [(n % 10).digitChar], hd, by omega, by rw [h, List.cons_append]⟩

theorem toDigits_of_head?_zero (h : (Nat.toDigits 10 n).head? = some '0') :
    Nat.toDigits 10 n = ['0'] := by
  obtain ⟨d, cs, hd, hzero, hcons⟩ := exists_toDigits_eq_cons n
  rw [hcons, List.head?_cons, Option.some_inj] at h
  have hvalue := Nat.toNat_digitChar_sub_48_of_lt_ten hd
  rw [h] at hvalue
  rw [hzero hvalue.symm, Nat.toDigits_zero]

theorem ofDigitChars_lastDigits (k n : Nat) :
    Nat.ofDigitChars 10 (lastDigits k n) 0 = n % tenTo k := by
  induction k generalizing n with
  | zero =>
    rw [tenTo_zero, Nat.mod_one]
    rfl
  | succ k ih =>
    have hdigit : (n % 10).digitChar.toNat - '0'.toNat = n % 10 :=
      Nat.toNat_digitChar_sub_48_of_lt_ten (Nat.mod_lt n (by decide))
    rw [lastDigits, Nat.ofDigitChars_append, ih, Nat.ofDigitChars_cons, Nat.ofDigitChars_nil,
      hdigit, tenTo_succ, Nat.mul_comm (tenTo k), Nat.mod_mul, Nat.add_comm]

theorem isDigit_of_mem_lastDigits {k : Nat} {c : Char} (h : c ∈ lastDigits k n) : c.isDigit := by
  induction k generalizing n with
  | zero => cases h
  | succ k ih =>
    rw [lastDigits, List.mem_append, List.mem_singleton] at h
    rcases h with h | rfl
    · exact ih h
    · exact isDigit_digitChar_mod n

variable {α : Type} {p : α → Bool} {l : List α}

theorem trimWhile_eq_self (h : ∀ a ∈ l, p a = false) : trimWhile p l = l := by
  have hl : l.dropWhile p = l := dropWhile_eq_self fun a ha ↦ h a (List.mem_of_mem_head? ha)
  have hr : l.reverse.dropWhile p = l.reverse :=
    dropWhile_eq_self fun a ha ↦ h a (List.mem_reverse.1 (List.mem_of_mem_head? ha))
  rw [trimWhile, hl, dropEndWhile, hr, List.reverse_reverse]

theorem trim_ofList {cs : List Char} (h : ∀ c ∈ cs, isBlank c = false) :
    trim (String.ofList cs) = String.ofList cs := by
  rw [trim, String.toList_ofList, trimWhile_eq_self h]

theorem isBlank_of_isDigit {c : Char} (h : c.isDigit) : isBlank c = false := by
  have h48 : 48 ≤ c.toNat := by simpa using (Char.isDigit_iff_toNat.1 h).1
  have h57 : c.toNat ≤ 57 := by simpa using (Char.isDigit_iff_toNat.1 h).2
  simp only [isBlank, Bool.or_eq_false_iff, Bool.and_eq_false_iff, decide_eq_false_iff_not,
    beq_eq_false_iff_ne]
  omega

end Forex.Text
