import Forex.Proofs.Conversion.RoundTrip

namespace Forex

open Decimal

namespace ExchangeRate

variable {e : ExchangeRate} {x y : Except Fault Decimal} {fault : Fault}

inductive QuotedAs (e : ExchangeRate) : Except Fault Decimal → Prop
  | largeCharge {share : Decimal} (hshare : share.IsRoundingOf (e.commission.toRat / 100))
      (hlarge : TooLarge (e.rate.toRat * share.toRat)) : QuotedAs e (.error .multiplication)
  | largeSum {share charge : Decimal} (hshare : share.IsRoundingOf (e.commission.toRat / 100))
      (hcharge : charge.IsRoundingOf (e.rate.toRat * share.toRat))
      (hlarge : TooLarge (e.rate.toRat + charge.toRat)) : QuotedAs e (.error .addition)
  | sum {share charge quoted : Decimal}
      (hshare : share.IsRoundingOf (e.commission.toRat / 100))
      (hcharge : charge.IsRoundingOf (e.rate.toRat * share.toRat))
      (hquoted : quoted.IsRoundingOf (e.rate.toRat + charge.toRat)) : QuotedAs e (.ok quoted)

theorem quotedAs_withCommission (e : ExchangeRate) : e.QuotedAs e.withCommission := by
  obtain ⟨share, hdiv, -⟩ := e.commission.exists_div_hundred
  have hshare := isRoundingOf_div hdiv
  rw [toRat_hundred] at hshare
  have hquote : e.withCommission = e.rate.mul share >>= e.rate.add := by
    rw [withCommission, hdiv]
    rfl
  rw [hquote]
  rcases mul_cases e.rate share with ⟨hlarge, hmul⟩ | ⟨charge, hcharge, hmul⟩
  · rw [hmul]
    exact .largeCharge hshare hlarge
  · rw [hmul]
    change e.QuotedAs (e.rate.add charge)
    rcases add_cases e.rate charge with ⟨hlarge, hadd⟩ | ⟨quoted, hquoted, hadd⟩
    · rw [hadd]
      exact .largeSum hshare hcharge hlarge
    · rw [hadd]
      exact .sum hshare hcharge hquoted

theorem QuotedAs.unique (hx : e.QuotedAs x) (hy : e.QuotedAs y) : x.map toRat = y.map toRat := by
  -- the two shares are worth the same, then the two charges, then the two sums
  cases hx with
  | largeCharge hshare hlarge =>
    cases hy with
    | largeCharge => rfl
    | largeSum hshare' hcharge' | sum hshare' hcharge' =>
      rw [hshare'.unique hshare] at hcharge'
      exact absurd hlarge hcharge'.not_tooLarge
  | largeSum hshare hcharge hlarge =>
    cases hy with
    | largeCharge hshare' hlarge' =>
      rw [hshare'.unique hshare] at hlarge'
      exact absurd hlarge' hcharge.not_tooLarge
    | largeSum => rfl
    | sum hshare' hcharge' hquoted' =>
      rw [hshare'.unique hshare] at hcharge'
      rw [hcharge'.unique hcharge] at hquoted'
      exact absurd hlarge hquoted'.not_tooLarge
  | sum hshare hcharge hquoted =>
    cases hy with
    | largeCharge hshare' hlarge' =>
      rw [hshare'.unique hshare] at hlarge'
      exact absurd hlarge' hcharge.not_tooLarge
    | largeSum hshare' hcharge' hlarge' =>
      rw [hshare'.unique hshare] at hcharge'
      rw [hcharge'.unique hcharge] at hlarge'
      exact absurd hlarge' hquoted.not_tooLarge
    | sum hshare' hcharge' hquoted' =>
      rw [hshare'.unique hshare] at hcharge'
      rw [hcharge'.unique hcharge] at hquoted'
      exact congrArg Except.ok (hquoted.unique hquoted')

theorem withCommission_eq_error_iff :
    e.withCommission = .error fault ↔ e.QuotedAs (.error fault) := by
  refine ⟨fun h ↦ h ▸ e.quotedAs_withCommission, fun h ↦ ?_⟩
  have hsame := h.unique e.quotedAs_withCommission
  cases hquote : e.withCommission with
  | error other =>
    rw [hquote] at hsame
    rw [Except.error.inj hsame]
  | ok quoted =>
    rw [hquote] at hsame
    cases hsame

theorem withCommission_of_zero (h : e.commission.toRat = 0) :
    ∃ quoted, e.withCommission = .ok quoted ∧ quoted.toRat = e.rate.toRat := by
  have hshare : Decimal.zero.IsRoundingOf (e.commission.toRat / 100) := by
    rw [h, zero_div]
    exact isRoundingOf_zero_zero
  have hcharge : Decimal.zero.IsRoundingOf (e.rate.toRat * Decimal.zero.toRat) := by
    rw [toRat_zero, mul_zero]
    exact isRoundingOf_zero_zero
  have hrate : e.rate.IsRoundingOf (e.rate.toRat + Decimal.zero.toRat) := by
    rw [toRat_zero, add_zero]
    exact .self e.rate
  have hsame := e.quotedAs_withCommission.unique (.sum hshare hcharge hrate)
  cases hquote : e.withCommission with
  | error fault =>
    rw [hquote] at hsame
    cases hsame
  | ok quoted =>
    rw [hquote] at hsame
    exact ⟨quoted, rfl, Except.ok.inj hsame⟩

theorem abs_rate_mul_share_le {share : Decimal}
    (hshare : share.IsRoundingOf (e.commission.toRat / 100)) :
    |e.rate.toRat * share.toRat| ≤
      |e.rate.toRat| * (1 + |e.commission.toRat| / 100) * (1 + 1 / 10 ^ 28) - |e.rate.toRat| := by
  have hsize := hshare.isWithin.one_add_abs_le
  rw [abs_div, Nat.abs_ofNat] at hsize
  have hmul := mul_le_mul_of_nonneg_left hsize (abs_nonneg e.rate.toRat)
  rw [abs_mul]
  linarith

theorem QuotedAs.lt_of_error (h : e.QuotedAs (.error fault)) :
    2 ^ 96 - 20 < |e.rate.toRat| * (1 + |e.commission.toRat| / 100) := by
  by_contra hbound
  rw [not_lt] at hbound
  have hrate := abs_nonneg e.rate.toRat
  cases h with
  | largeCharge hshare hlarge =>
    have hcharge := abs_rate_mul_share_le hshare
    rw [TooLarge] at hlarge
    linarith
  | @largeSum share charge hshare hcharge hlarge =>
    have hproduct := abs_rate_mul_share_le hshare
    have hround := hcharge.isWithin.one_add_abs_le
    have hsum := abs_add_le e.rate.toRat charge.toRat
    rw [TooLarge] at hlarge
    linarith

end ExchangeRate

namespace Converter

variable (c : Converter) {p : Pair}

theorem quote_cases (p : Pair) :
    p.source = p.target ∧ c.rate p = some .one ∧ c.quote p = .ok (some .one) ∨
      p.source ≠ p.target ∧ c.rates.resolveEdge c.base p = none ∧ c.rate p = none ∧
        c.quote p = .ok none ∨
      p.source ≠ p.target ∧ ∃ e, c.rates.resolveEdge c.base p = some e ∧ c.rate p = some e.rate ∧
        ((∃ fault, e.withCommission = .error fault ∧ c.quote p = .error fault) ∨
          ∃ quoted, e.withCommission = .ok quoted ∧ c.quote p = .ok (some quoted)) := by
  unfold rate quote RateTable.resolve
  by_cases hne : p.source = p.target
  · exact .inl ⟨hne, if_pos hne, if_pos hne⟩
  · rw [if_neg hne, if_neg hne]
    cases c.rates.resolveEdge c.base p with
    | none => exact .inr (.inl ⟨hne, rfl, rfl, rfl⟩)
    | some e =>
      refine .inr (.inr ⟨hne, e, rfl, rfl, ?_⟩)
      dsimp only
      cases e.withCommission with
      | error fault => exact .inl ⟨fault, rfl, rfl⟩
      | ok quoted => exact .inr ⟨quoted, rfl, rfl⟩

theorem quote_eq_error_iff {fault : Fault} :
    c.quote p = .error fault ↔ p.source ≠ p.target ∧
      ∃ e, c.rates.resolveEdge c.base p = some e ∧ e.QuotedAs (.error fault) := by
  simp only [← ExchangeRate.withCommission_eq_error_iff]
  rcases c.quote_cases p with ⟨hsame, -, hquote⟩ | ⟨-, hedge, -, hquote⟩ |
    ⟨hne, e, hedge, -, ⟨fault', hresult, hquote⟩ | ⟨quoted, hresult, hquote⟩⟩
  · simp [hsame, hquote]
  · simp [hedge, hquote]
  · simp [hne, hedge, hresult, hquote]
  · simp [hedge, hresult, hquote]

theorem quote_eq_ok {quoted : Decimal} (h : c.quote p = .ok (some quoted)) :
    p.source = p.target ∧ quoted = .one ∨ p.source ≠ p.target ∧
      ∃ e, c.rates.resolveEdge c.base p = some e ∧ e.QuotedAs (.ok quoted) := by
  rcases c.quote_cases p with ⟨hsame, -, hquote⟩ | ⟨-, -, -, hquote⟩ |
    ⟨hne, e, hedge, -, ⟨fault, -, hquote⟩ | ⟨quoted', hresult, hquote⟩⟩ <;> rw [hquote] at h
  · exact .inl ⟨hsame, (Option.some.inj (Except.ok.inj h)).symm⟩
  · cases h
  · cases h
  · cases h
    exact .inr ⟨hne, e, hedge, hresult ▸ e.quotedAs_withCommission⟩

theorem isSome_of_quote {quoted : Option Decimal} (h : c.quote p = .ok quoted) :
    quoted.isSome = (c.rate p).isSome := by
  rcases c.quote_cases p with ⟨-, hrate, hquote⟩ | ⟨-, -, hrate, hquote⟩ |
    ⟨-, e, -, hrate, ⟨fault, -, hquote⟩ | ⟨quoted', -, hquote⟩⟩ <;> rw [hquote] at h
  · cases h
    rw [hrate]
  · cases h
    rw [hrate]
  · cases h
  · cases h
    rw [hrate]
    rfl

theorem quote_without_commission (h : p.source = p.target ∨
      ∃ e, c.rates.resolveEdge c.base p = some e ∧ e.commission.toRat = 0) :
    ∃ quoted, c.quote p = .ok quoted ∧ quoted.map toRat = (c.rate p).map toRat := by
  rcases c.quote_cases p with ⟨-, hrate, hquote⟩ | ⟨-, -, hrate, hquote⟩ |
    ⟨hne, e, hedge, hrate, hresult⟩
  · exact ⟨_, hquote, by rw [hrate]⟩
  · exact ⟨_, hquote, by rw [hrate]⟩
  · obtain ⟨e', he', hzero⟩ := h.resolve_left hne
    obtain rfl := Option.some.inj (hedge.symm.trans he')
    obtain ⟨quoted, hquoted, hvalue⟩ := ExchangeRate.withCommission_of_zero hzero
    rcases hresult with ⟨fault, hfault, -⟩ | ⟨quoted', hquoted', hquote⟩
    · cases hquoted.symm.trans hfault
    · obtain rfl := Except.ok.inj (hquoted.symm.trans hquoted')
      exact ⟨some quoted, hquote, by rw [hrate, Option.map_some, Option.map_some, hvalue]⟩

/-- A quote fails exactly if the charge or its sum with the rate is too large for a decimal, and
never for rates that stay below a bound with their commission. It is given for the pairs that have a
rate, and it is the rate if there is no commission. -/
theorem quote_fails_iff_too_large (c : Converter) (p : Pair) :
    (∀ fault, c.quote p = .error fault ↔ p.source ≠ p.target ∧
      ∃ e, c.rates.resolveEdge c.base p = some e ∧ e.QuotedAs (.error fault)) ∧
    ((∀ e, c.rates.resolveEdge c.base p = some e →
        |e.rate.toRat| * (1 + |e.commission.toRat| / 100) ≤ 2 ^ 96 - 20) →
      ∃ quoted, c.quote p = .ok quoted) ∧
    (∀ quoted, c.quote p = .ok quoted → quoted.isSome = (c.rate p).isSome) ∧
    (∀ quoted, c.quote p = .ok (some quoted) → p.source = p.target ∧ quoted = .one ∨
      p.source ≠ p.target ∧
        ∃ e, c.rates.resolveEdge c.base p = some e ∧ e.QuotedAs (.ok quoted)) ∧
    ((p.source = p.target ∨
        ∃ e, c.rates.resolveEdge c.base p = some e ∧ e.commission.toRat = 0) →
      ∃ quoted, c.quote p = .ok quoted ∧ quoted.map toRat = (c.rate p).map toRat) := by
  refine ⟨fun fault ↦ c.quote_eq_error_iff, ?bounded, fun quoted ↦ c.isSome_of_quote,
    fun quoted ↦ c.quote_eq_ok, c.quote_without_commission⟩
  intro hbound
  cases hquote : c.quote p with
  | error fault =>
    obtain ⟨-, e, hedge, hfault⟩ := c.quote_eq_error_iff.1 hquote
    exact absurd (hbound e hedge) (not_le.2 hfault.lt_of_error)
  | ok quoted => exact ⟨quoted, rfl⟩

def overcharged : Converter where
  base := .ofText "USD"
  rates := ⟨[
    { pair := ⟨.ofText "USD", .ofText "JPY"⟩, rate := .vanishing
      commission := { Decimal.one with mantissa := 300, mantissa_lt := by decide } },
    { pair := ⟨.ofText "USD", .ofText "EUR"⟩, rate := .vanishing
      commission :=
        { Decimal.one with negative := true, mantissa := 400, mantissa_lt := by decide } }]⟩

theorem quote_overcharged :
    overcharged.rate ⟨.ofText "USD", .ofText "JPY"⟩ = some .vanishing ∧
    overcharged.quote ⟨.ofText "USD", .ofText "JPY"⟩ = .error .addition ∧
    overcharged.rate ⟨.ofText "USD", .ofText "EUR"⟩ = some .vanishing ∧
    overcharged.quote ⟨.ofText "USD", .ofText "EUR"⟩ = .error .multiplication := by
  decide

end Converter

end Forex
