import Forex.Proofs.Conversion
import Forex.Proofs.Price
import Forex.Proofs.Rate.Inverse
import Mathlib.Data.List.Forall2

namespace Forex

open Decimal

inductive ComesTo (amount : Decimal) : Option Decimal → Decimal → Prop
  | noRate : ComesTo amount none .zero
  | zeroRate {r : Decimal} (hr : r.toRat = 0) : ComesTo amount (some r) .zero
  | tooLarge {r : Decimal} (hlarge : TooLarge (amount.toRat * r.toRat)) :
      ComesTo amount (some r) .zero
  | product {r x : Decimal} (hr : r.toRat ≠ 0) (hfits : ¬TooLarge (amount.toRat * r.toRat))
      (hx : x.IsRoundingOf (amount.toRat * r.toRat)) : ComesTo amount (some r) x

/-- What a value is shown as: at ten places if it stays small there, else at the places that are
asked for. -/
inductive ShownAs (precision : UInt32) (rounding : Rounding) (q : ℚ) (shown : Decimal) : Prop
  | small (hgives : RoundingMode.halfAwayFromZero.Gives 10 q shown.toRat)
      (hstays : StaysSmall q shown.toRat)
  | rounded (hnot : ∀ h, RoundingMode.halfAwayFromZero.Gives 10 q h → ¬StaysSmall q h)
      (hgives : rounding.mode.Gives (min precision.toNat 28) q shown.toRat)

def ShownConverted (rate : Option Decimal) (precision : UInt32) (rounding : Rounding)
    (amount shown : Decimal) : Prop :=
  ∃ x, ComesTo amount rate x ∧ ShownAs precision rounding x.toRat shown

theorem comesTo_convert (amount : Decimal) (rate : Option Decimal) :
    ComesTo amount rate (convert amount rate) := by
  cases rate with
  | none => exact .noRate
  | some r =>
    by_cases hr : r.toRat = 0
    · rw [convert, if_pos (toRat_eq_zero_iff.1 hr)]
      exact .zeroRate hr
    · rcases convert_some_cases hr amount with ⟨hlarge, hzero⟩ | ⟨hfits, hround⟩
      · rw [hzero]
        exact .tooLarge hlarge
      · exact .product hr hfits hround

theorem shownAs_toPrice (a : Decimal) (precision : UInt32) (rounding : Rounding) :
    ShownAs precision rounding a.toRat (a.toPrice precision rounding) := by
  have hten := a.gives_round 10 .halfAwayFromZero
  by_cases hstays : StaysSmall a.toRat (a.round 10 .halfAwayFromZero).toRat
  · have hvalue : (a.toPrice precision rounding).toRat = (a.round 10 .halfAwayFromZero).toRat := by
      rw [toPrice_of_staysSmall hstays, toRat_plainZero, toRat_normalize]
    rw [← hvalue] at hten hstays
    exact .small hten hstays
  · refine .rounded ?_ ?_
    · intro h hh
      rwa [hh.unique hten]
    · rw [toPrice_of_not_staysSmall hstays, toRat_plainZero]
      exact a.gives_toPlaces _ rounding

theorem shownConverted_toPrice (amount : Decimal) (rate : Option Decimal) (precision : UInt32)
    (rounding : Rounding) :
    ShownConverted rate precision rounding amount
      ((convert amount rate).toPrice precision rounding) :=
  ⟨_, comesTo_convert amount rate, shownAs_toPrice _ precision rounding⟩

namespace Converter

variable (c : Converter) {p : Pair} {r : Decimal}

theorem eq_one_or_mem_of_rate (h : c.rate p = some r) :
    r = .one ∨ ∃ e ∈ c.rates.edges, e.rate = r := by
  rw [rate, RateTable.resolve] at h
  split at h
  case isTrue => exact .inl (Option.some.inj h).symm
  case isFalse =>
    obtain ⟨e, he, rfl⟩ := Option.map_eq_some_iff.1 h
    refine .inr ⟨e, ?_, rfl⟩
    rcases (Option.orElse_eq_some _ _ _).1 he with he | ⟨-, he⟩
    · exact List.mem_of_find?_eq_some he
    · exact List.mem_of_find?_eq_some he

theorem exists_rateOrInverse (p : Pair) : ∃ lookup, c.rateOrInverse p = .ok lookup := by
  by_cases hne : p.source = p.target
  · exact ⟨_, c.rates.resolveOrInverse_self c.base hne⟩
  · exact ⟨_, c.rates.resolveOrInverse_eq c.base hne⟩

theorem fromAccountPrice_eq (account : Code) (price : Decimal) :
    c.fromAccountPrice account price =
      .ok (c.display (convert price
        ((c.rates.usableRate? c.base ⟨account, c.base⟩).map reciprocal))) := by
  rw [fromAccountPrice]
  cases hrate : c.rates.usableRate? c.base ⟨account, c.base⟩ with
  | none => rfl
  | some r =>
    simp only [one_div_eq_reciprocal (RateTable.isZero_of_usableRate? hrate)]
    rfl

theorem convertMany_cases (p : Pair) (amounts : List Decimal) :
    p.source = p.target ∧ c.convertMany p amounts = .ok amounts ∨
      p.source ≠ p.target ∧ c.rates.usableRate? c.base p = none ∧
        c.convertMany p amounts = .error (.rateUnavailable p) ∨
      p.source ≠ p.target ∧ ∃ r shown, c.rates.usableRate? c.base p = some r ∧
        c.convertMany p amounts = .ok shown ∧
        List.Forall₂ (ShownConverted (some r) (c.policy p.target).1 (c.policy p.target).2)
          amounts shown := by
  unfold convertMany
  by_cases hne : p.source = p.target
  · exact .inl ⟨hne, if_pos hne⟩
  · rw [if_neg hne]
    cases c.rates.usableRate? c.base p with
    | none => exact .inr (.inl ⟨hne, rfl, rfl⟩)
    | some r =>
      refine .inr (.inr ⟨hne, r, _, rfl, rfl, ?_⟩)
      rw [List.forall₂_map_right_iff, List.forall₂_same]
      intro amount _
      exact shownConverted_toPrice amount (some r) _ _

/-- Every question of a display is answered. Only usable rates are divisors; they are not zero and
have reciprocals. Rounding leaves a mantissa that fits, and filling up with zeros keeps the value. A
product that does not fit counts as zero. -/
theorem display_answers (c : Converter) :
    (∀ p r, c.rates.usableRate? c.base p = some r →
      r.toRat ≠ 0 ∧ Decimal.one.div r = .ok r.reciprocal ∧
        r.reciprocal.IsRoundingOf (1 / r.toRat)) ∧
    (∀ (a : Decimal) (places : Nat) (mode : RoundingMode),
      (places < a.scale →
        mode.divide a.negative a.mantissa (tenTo (a.scale - places)) < 2 ^ 96) ∧
      ((a.round places mode).rescale places).toRat = (a.round places mode).toRat) ∧
    (∀ p r, c.rate p = some r → r = .one ∨ ∃ e ∈ c.rates.edges, e.rate = r) ∧
    (∀ p, ∃ lookup, c.rateOrInverse p = .ok lookup) ∧
    (∀ p amount, ComesTo amount (c.rate p) (c.convertBetween p amount)) ∧
    (∀ account price, ShownConverted (c.rate ⟨c.base, account⟩) c.displayPrecision .half price
      (c.toAccountPrice account price)) ∧
    (∀ account price, ∃ shown, c.fromAccountPrice account price = .ok shown ∧
      ShownConverted ((c.rates.usableRate? c.base ⟨account, c.base⟩).map reciprocal)
        c.displayPrecision .half price shown) ∧
    ∀ p amounts, p.source = p.target ∧ c.convertMany p amounts = .ok amounts ∨
      p.source ≠ p.target ∧ c.rates.usableRate? c.base p = none ∧
        c.convertMany p amounts = .error (.rateUnavailable p) ∨
      p.source ≠ p.target ∧ ∃ r shown, c.rates.usableRate? c.base p = some r ∧
        c.convertMany p amounts = .ok shown ∧
        List.Forall₂ (ShownConverted (some r) (c.policy p.target).1 (c.policy p.target).2)
          amounts shown := by
  refine ⟨?divisors, ?rounding, fun p r ↦ c.eq_one_or_mem_of_rate, c.exists_rateOrInverse,
    fun p amount ↦ comesTo_convert amount (c.rate p),
    fun account price ↦ shownConverted_toPrice price _ _ _, ?fromAccount, c.convertMany_cases⟩
  case divisors =>
    intro p r hr
    have hzero := RateTable.isZero_of_usableRate? hr
    have hdiv := one_div_eq_reciprocal hzero
    have hround := isRoundingOf_div hdiv
    rw [toRat_one] at hround
    exact ⟨isZero_eq_false_iff.1 hzero, hdiv, hround⟩
  case rounding =>
    intro a places mode
    refine ⟨fun hplaces ↦ ?_, toRat_rescale (scale_round_le a places mode)⟩
    exact divide_tenTo_lt mode a.negative a.mantissa_lt (by omega)
  case fromAccount =>
    intro account price
    exact ⟨_, c.fromAccountPrice_eq account price, shownConverted_toPrice price _ _ _⟩

end Converter

end Forex
