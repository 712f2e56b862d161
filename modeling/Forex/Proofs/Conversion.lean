import Forex.Converter
import Forex.Proofs.Decimal.Arithmetic

namespace Forex

open Decimal

variable {t : RateTable} {base : Code} {p : Pair} {amount r : Decimal}

namespace RateTable

theorem usableRate?_eq_some_iff :
    t.usableRate? base p = some r ↔ t.resolve base p = some r ∧ r.toRat ≠ 0 := by
  rw [usableRate?, Option.filter_eq_some_iff, Bool.not_eq_true', isZero_eq_false_iff]

theorem usableRate?_eq_none_iff :
    t.usableRate? base p = none ↔ ∀ r, t.resolve base p = some r → r.toRat = 0 := by
  simp only [usableRate?, Option.filter_eq_none_iff, Bool.not_eq_true', Bool.not_eq_false,
    toRat_eq_zero_iff]

end RateTable

theorem convert_some (hr : r.toRat ≠ 0) (amount : Decimal) :
    convert amount (some r) = (amount.mul? r).getD .zero :=
  if_neg (mt toRat_eq_zero_iff.2 hr)

theorem convert_some_cases (hr : r.toRat ≠ 0) (amount : Decimal) :
    TooLarge (amount.toRat * r.toRat) ∧ convert amount (some r) = .zero ∨
      ¬TooLarge (amount.toRat * r.toRat) ∧
        (convert amount (some r)).IsRoundingOf (amount.toRat * r.toRat) := by
  rw [convert_some hr]
  rcases amount.mul?_none_or_some r with ⟨hlarge, hnone⟩ | ⟨hfits, v, hsome, hround⟩
  · exact .inl ⟨hlarge, by rw [hnone]; rfl⟩
  · exact .inr ⟨hfits, by rwa [hsome]⟩

theorem isRoundingOf_convert (h : amount.mul? r ≠ none) :
    (convert amount (some r)).IsRoundingOf (amount.toRat * r.toRat) := by
  obtain ⟨v, hv⟩ := Option.ne_none_iff_exists'.1 h
  by_cases hr : r.toRat = 0
  · rw [convert, if_pos (toRat_eq_zero_iff.1 hr), hr, mul_zero]
    exact isRoundingOf_zero_zero
  · rw [convert_some hr, hv]
    exact isRoundingOf_mul? hv

theorem toRat_convert {v : Decimal} (hr : r.toRat ≠ 0) (h : v.toRat = amount.toRat * r.toRat) :
    (convert amount (some r)).toRat = v.toRat := by
  rcases convert_some_cases hr amount with ⟨hlarge, -⟩ | ⟨-, hround⟩
  · rw [← h] at hlarge
    exact absurd hlarge v.not_tooLarge_toRat
  · rw [h]
    exact hround.toRat_eq h

theorem convert_of_no_rate {rate : Option Decimal} (h : ∀ r, rate = some r → r.toRat = 0)
    (amount : Decimal) : convert amount rate = .zero := by
  cases rate with
  | none => rfl
  | some r => exact if_pos (toRat_eq_zero_iff.1 (h r rfl))

namespace Converter

variable (c : Converter)

/-- Strict and lenient conversion side by side: without a usable rate, with a product that is too
large, and with one that fits. -/
theorem convertStrict_cases (p : Pair) (amount : Decimal) :
    (∀ r, c.rate p = some r → r.toRat = 0) ∧
        c.convertStrict p amount = .error (.refused (.rateUnavailable p)) ∧
        c.convertBetween p amount = .zero ∨
      (∃ r, c.rate p = some r ∧ TooLarge (amount.toRat * r.toRat)) ∧
        c.convertStrict p amount = .error (.outOfRange .multiplication) ∧
        c.convertBetween p amount = .zero ∨
      (∃ r, c.rate p = some r ∧ r.toRat ≠ 0 ∧ ¬TooLarge (amount.toRat * r.toRat)) ∧
        c.convertStrict p amount = .ok (c.convertBetween p amount) := by
  cases husable : c.rates.usableRate? c.base p with
  | none =>
    have hzero := RateTable.usableRate?_eq_none_iff.1 husable
    refine .inl ⟨hzero, ?_, convert_of_no_rate hzero amount⟩
    rw [convertStrict, Forex.convertStrict, husable]
  | some r =>
    obtain ⟨hrate, hr⟩ := RateTable.usableRate?_eq_some_iff.1 husable
    have hlenient : c.convertBetween p amount = (amount.mul? r).getD .zero := by
      rw [convertBetween, rate, hrate, convert_some hr]
    have hstrict : c.convertStrict p amount = arithmetic (amount.mul r) := by
      rw [convertStrict, Forex.convertStrict, husable]
    rw [hlenient, hstrict, mul]
    rcases amount.mul?_none_or_some r with ⟨hlarge, hnone⟩ | ⟨hfits, v, hsome, -⟩
    · rw [hnone]
      exact .inr (.inl ⟨⟨r, hrate, hlarge⟩, rfl, rfl⟩)
    · rw [hsome]
      exact .inr (.inr ⟨⟨r, hrate, hr, hfits⟩, rfl⟩)

end Converter

end Forex
