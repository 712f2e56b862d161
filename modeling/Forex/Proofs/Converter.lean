import Forex.Proofs.Converter.Display

namespace Forex

open Decimal

theorem abs_mul_sub_lt {p r : ℚ} (hp : p ≠ 0) (hr : 0 < r) (hne : r ≠ 1) :
    |p * r - p| < |p * r * r - p| := by
  have hapart : p * r - p ≠ 0 := by
    rw [sub_ne_zero, Ne, mul_eq_left₀ hp]
    exact hne
  have hfactor : 1 < 1 + r := lt_add_of_pos_right 1 hr
  have habs : |p * r * r - p| = |p * r - p| * (1 + r) := by
    rw [show p * r * r - p = (p * r - p) * (1 + r) by ring, abs_mul,
      abs_of_pos (zero_lt_one.trans hfactor)]
  rw [habs]
  exact lt_mul_of_one_lt_right (abs_pos.2 hapart) hfactor

theorem lt_of_rounded_twice {q x p : ℚ} {k d : Nat} (hfirst : |q - x| ≤ 1 / 10 ^ k / 2)
    (hsecond : |x - p| ≤ 1 / 10 ^ d / 2) (hfar : 1 / 10 ^ d < |q - p|) : k < d ∧ x ≠ q := by
  constructor
  · by_contra hdk
    have hfiner : (1 : ℚ) / 10 ^ k ≤ 1 / 10 ^ d :=
      one_div_le_one_div_of_le (by positivity) (pow_le_pow_right₀ (by norm_num) (not_lt.1 hdk))
    have htriangle := abs_sub_le q x p
    linarith
  · rintro rfl
    have hunit : (0 : ℚ) < 1 / 10 ^ d := by positivity
    linarith

namespace Decimal

variable {p m x : Decimal} {r : ℚ} {d k : Nat}

theorem TooLarge.mono {q w : ℚ} (h : TooLarge q) (hle : |q| ≤ |w|) : TooLarge w := h.trans hle

theorem TooLarge.of_multiple {q : ℚ} {n : ℤ} (h : TooLarge q) (hnear : |q - n * 10| ≤ 5) :
    TooLarge (n * 10) := by
  have hmagnitude : |(n : ℚ) * 10| = (n.natAbs * 10 : ℕ) := by
    rw [abs_mul, Nat.abs_ofNat, Nat.cast_mul, Nat.cast_ofNat, Nat.cast_natAbs, Int.cast_abs]
  have hbelow : 2 ^ 96 - 6 < n.natAbs * 10 := by
    have htriangle := abs_sub_abs_le_abs_sub q (n * 10)
    have hq : (2 : ℚ) ^ 96 - 1 / 2 ≤ |q| := h
    rw [hmagnitude] at htriangle
    have hlt : ((2 ^ 96 - 6 : ℕ) : ℚ) < (n.natAbs * 10 : ℕ) := by
      norm_num at hq htriangle ⊢
      linarith
    exact_mod_cast hlt
  have hbound : 2 ^ 96 ≤ n.natAbs * 10 := by omega
  have hcast : ((2 ^ 96 : ℕ) : ℚ) ≤ (n.natAbs * 10 : ℕ) := by exact_mod_cast hbound
  rw [TooLarge, hmagnitude]
  norm_num at hcast ⊢
  linarith

/-- Where there is no room for one more place of a price that was multiplied twice, but would round
to the price, there is none for it multiplied once. -/
theorem TooLarge.of_mul {p : ℚ} (hp : OnGrid k p) (hr : 0 < r)
    (h : TooLarge (p * r * r * 10 ^ (k + 1))) (hnear : |p * r * r - p| ≤ 1 / 10 ^ k / 2) :
    TooLarge (p * r * 10 ^ (k + 1)) := by
  rcases le_total r 1 with hle | hge
  · refine h.mono ?_
    rw [mul_right_comm, abs_mul _ r, abs_of_pos hr]
    exact mul_le_of_le_one_right (abs_nonneg _) hle
  · obtain ⟨n, rfl⟩ := hp
    have hunit : (0 : ℚ) < 10 ^ (k + 1) := by positivity
    have hten : (n : ℚ) / 10 ^ k * 10 ^ (k + 1) = n * 10 := by
      rw [pow_succ]
      field_simp
    have hlarge : TooLarge ((n : ℚ) * 10) := by
      refine h.of_multiple ?_
      rw [← hten, ← sub_mul, abs_mul, abs_of_pos hunit]
      calc |(n : ℚ) / 10 ^ k * r * r - n / 10 ^ k| * 10 ^ (k + 1)
          ≤ 1 / 10 ^ k / 2 * 10 ^ (k + 1) := by gcongr
        _ = 5 := by
          rw [pow_succ]
          field_simp
          norm_num
    refine hlarge.mono ?_
    rw [← hten, mul_right_comm, abs_mul _ r, abs_of_pos hr]
    exact le_mul_of_one_le_right (abs_nonneg _) hge

theorem IsRoundingOf.not_gives (hx : x.IsRoundingOf (p.toRat * r * r))
    (hm : m.toRat = p.toRat * r) (hpd : OnGrid d p.toRat) (hmd : OnGrid d m.toRat)
    (hp : p.toRat ≠ 0) (hr : 0 < r) (hne : r ≠ 1) :
    ¬RoundingMode.halfAwayFromZero.Gives d x.toRat p.toRat := by
  intro hgives
  have hfar : |m.toRat - p.toRat| < |p.toRat * r * r - p.toRat| := by
    rw [hm]
    exact abs_mul_sub_lt hp hr hne
  have hapart {k : Nat} (hpk : OnGrid k p.toRat) (hmk : OnGrid k m.toRat) :
      1 / 10 ^ k ≤ |m.toRat - p.toRat| := by
    by_contra hclose
    have heq := hmk.eq_of_abs_sub_lt hpk (not_le.1 hclose)
    rw [hm, mul_eq_left₀ hp] at heq
    exact hne heq
  obtain ⟨k, -, hround, hroom⟩ := hx
  have herror := hround.1.abs_sub_le
  have hshown := hgives.1.abs_sub_le
  rw [div_right_comm] at herror hshown
  obtain ⟨hkd, hinexact⟩ :=
    lt_of_rounded_twice herror hshown ((hapart hpd hmd).trans_lt hfar)
  -- the product has fewer places than the price is shown with, so it is the price already
  have heq : x.toRat = p.toRat :=
    (RoundingMode.Gives.self _ (hround.onGrid.mono hkd.le)).unique hgives
  rw [heq] at herror hround
  have hcoarse : ¬m.scale ≤ k := by
    intro hmk
    have hunit := hapart hround.onGrid (m.onGrid_toRat.mono hmk)
    have hpos : (0 : ℚ) < 1 / 10 ^ k := by positivity
    linarith
  have hlarge : TooLarge (p.toRat * r * r * 10 ^ (k + 1)) := by
    rcases hroom with rfl | hexact | hlarge
    · exact absurd m.scale_le hcoarse
    · exact absurd hexact hinexact
    · exact hlarge
  have honce := hlarge.of_mul hround.onGrid hr herror
  rw [← hm] at honce
  exact not_tooLarge_mul_pow (not_le.1 hcoarse) honce

end Decimal

variable {a b r s p m : Decimal}

namespace Converter

variable (c : Converter) {account : Code}

theorem toRat_display (h : a.toRat = b.toRat)
    (hplaces : OnGrid (places c.displayPrecision) b.toRat) (hlarge : ¬SmallValue b.toRat) :
    (c.display a).toRat = b.toRat := by
  rw [← h] at hplaces hlarge ⊢
  exact toRat_toPrice hplaces hlarge

theorem gives_display (hne : (c.display a).toRat ≠ 0) (hlarge : ¬SmallValue (c.display a).toRat) :
    RoundingMode.halfAwayFromZero.Gives (places c.displayPrecision) a.toRat (c.display a).toRat :=
  gives_toPrice hne hlarge

/-- A price multiplied twice by a rate is shown as the price only if the rate is one or the price is
zero. -/
theorem display_twice_iff {x : Decimal} {q : ℚ} (hq : 0 < q) (hm : m.toRat = p.toRat * q)
    (hp : OnGrid (places c.displayPrecision) p.toRat) (hlarge : ¬SmallValue p.toRat)
    (hmplaces : OnGrid (places c.displayPrecision) m.toRat)
    (hx : TooLarge (p.toRat * q * q) ∧ x = .zero ∨
      ¬TooLarge (p.toRat * q * q) ∧ x.IsRoundingOf (p.toRat * q * q)) :
    (c.display x).toRat = p.toRat ↔ q = 1 ∨ p.toRat = 0 := by
  constructor
  · intro hsame
    by_contra hother
    rw [not_or] at hother
    rcases hx with ⟨-, rfl⟩ | ⟨-, hround⟩
    · rw [display, toPrice_zero, toRat_zero] at hsame
      exact hother.2 hsame.symm
    · have hgives := c.gives_display (hsame ▸ hother.2) (hsame ▸ hlarge)
      rw [hsame] at hgives
      exact hround.not_gives hm hp hmplaces hother.2 hq hother.1 hgives
  · intro hneutral
    have htwice : p.toRat * q * q = p.toRat := by
      rcases hneutral with h | h
      · rw [h, mul_one, mul_one]
      · rw [h, zero_mul, zero_mul]
    rw [htwice] at hx
    rcases hx with ⟨hfits, -⟩ | ⟨-, hround⟩
    · exact absurd hfits p.not_tooLarge_toRat
    · exact c.toRat_display (hround.toRat_eq rfl) hp hlarge

theorem exists_fromAccountPrice (hs : c.rate ⟨account, c.base⟩ = some s)
    (hinverse : r.toRat * s.toRat = 1) :
    ∃ q : Decimal, q.toRat = r.toRat ∧
      ∀ price, c.fromAccountPrice account price = .ok (c.display (convert price (some q))) := by
  have hne : s.toRat ≠ 0 := right_ne_zero_of_mul_eq_one hinverse
  have husable : c.rates.usableRate? c.base ⟨account, c.base⟩ = some s :=
    RateTable.usableRate?_eq_some_iff.2 ⟨hs, hne⟩
  have hinv : Decimal.one.div s = .ok s.reciprocal :=
    one_div_eq_reciprocal (RateTable.isZero_of_usableRate? husable)
  have hvalue : r.toRat = Decimal.one.toRat / s.toRat := by
    rw [toRat_one]
    exact eq_one_div_of_mul_eq_one_left hinverse
  refine ⟨s.reciprocal, hvalue.symm ▸ (isRoundingOf_div hinv).toRat_eq hvalue, fun price ↦ ?_⟩
  rw [fromAccountPrice_eq, husable]
  rfl

/-- A price in the base is shown to an account at its exact value if that needs no more places and
is not small. What is shown can be converted back to the price by the rate back. But the way back
for account prices multiplies by the first rate once more: it gives the price only if that rate is
one or the price is zero. -/
theorem account_price_restored_iff (hr : c.rate ⟨c.base, account⟩ = some r)
    (hs : c.rate ⟨account, c.base⟩ = some s) (hpos : 0 < r.toRat)
    (hinverse : r.toRat * s.toRat = 1) (hm : m.toRat = p.toRat * r.toRat)
    (hp : OnGrid (min c.displayPrecision.toNat 28) p.toRat) (hpsmall : ¬SmallValue p.toRat)
    (hmplaces : OnGrid (min c.displayPrecision.toNat 28) m.toRat) (hmsmall : ¬SmallValue m.toRat) :
    let shown := c.toAccountPrice account p
    let twice := p.toRat * r.toRat * r.toRat
    shown.toRat = m.toRat ∧
    (c.display (c.convertBetween ⟨account, c.base⟩ shown)).toRat = p.toRat ∧
    ∃ back, c.fromAccountPrice account shown = .ok back ∧
      (TooLarge twice → back = .zero) ∧
      (¬TooLarge twice → ∃ x : Decimal, x.IsRoundingOf twice ∧ back = c.display x) ∧
      (back.toRat = p.toRat ↔ r.toRat = 1 ∨ p.toRat = 0) := by
  intro shown twice
  have hshown : shown.toRat = m.toRat := by
    have hconverted := toRat_convert hpos.ne' hm
    rw [← hr] at hconverted
    exact c.toRat_display hconverted hmplaces hmsmall
  refine ⟨hshown, ?restored, ?back⟩
  case restored =>
    have hexact : p.toRat = shown.toRat * s.toRat := by
      rw [hshown, hm, mul_assoc, hinverse, mul_one]
    have hconverted := toRat_convert (right_ne_zero_of_mul_eq_one hinverse) hexact
    rw [← hs] at hconverted
    exact c.toRat_display hconverted hp hpsmall
  case back =>
    obtain ⟨q, hq, hback⟩ := c.exists_fromAccountPrice hs hinverse
    have hcases := convert_some_cases (r := q) (by rw [hq]; exact hpos.ne') shown
    rw [hshown, hm, hq] at hcases
    refine ⟨_, hback shown, ?large, ?fits, c.display_twice_iff hpos hm hp hpsmall hmplaces hcases⟩
    case large =>
      intro hlarge
      rw [(hcases.resolve_right fun h ↦ h.1 hlarge).2]
      exact toPrice_zero
    case fits =>
      intro hfits
      exact ⟨_, (hcases.resolve_left fun h ↦ hfits h.1).2, rfl⟩

def yenBothWays : Converter where
  base := .ofText "USD"
  rates := ⟨[
    { pair := ⟨.neutral, .ofText "JPY"⟩, rate := .hundred },
    { pair := ⟨.ofText "JPY", .neutral⟩, rate := .hundredth }]⟩

theorem account_price_restored_iff_oneDollar :
    (yenBothWays.toAccountPrice (.ofText "JPY") .one).toRat = 100 ∧
    ∃ back, yenBothWays.fromAccountPrice (.ofText "JPY")
        (yenBothWays.toAccountPrice (.ofText "JPY") .one) = .ok back ∧
      back.toRat ≠ 1 := by
  have hr : yenBothWays.rate ⟨yenBothWays.base, .ofText "JPY"⟩ = some .hundred := by decide
  have hs : yenBothWays.rate ⟨.ofText "JPY", yenBothWays.base⟩ = some .hundredth := by decide
  have hhundredth : hundredth.toRat = 1 / 100 := by norm_num [toRat, signed, hundredth]
  have hplaces (n : ℤ) : OnGrid (min yenBothWays.displayPrecision.toNat 28) n :=
    onGrid_intCast _ n
  obtain ⟨hshown, -, back, hback, -, -, hiff⟩ :=
    yenBothWays.account_price_restored_iff (p := .one) (m := .hundred) hr hs
      (by norm_num [toRat_hundred])
      (by norm_num [toRat_hundred, hhundredth])
      (by norm_num [toRat_one, toRat_hundred])
      (by rw [toRat_one]; exact_mod_cast hplaces 1)
      (by norm_num [toRat_one, SmallValue])
      (by rw [toRat_hundred]; exact_mod_cast hplaces 100)
      (by norm_num [toRat_hundred, SmallValue])
  rw [toRat_hundred] at hshown
  rw [toRat_one, toRat_hundred] at hiff
  exact ⟨hshown, back, hback, fun h ↦ absurd (hiff.1 h) (by norm_num)⟩

theorem oneDollar_not_restored :
    yenBothWays.toAccountPrice (.ofText "JPY") .one =
      { negative := false, mantissa := 10000, scale := 2 } ∧
    yenBothWays.fromAccountPrice (.ofText "JPY")
        (yenBothWays.toAccountPrice (.ofText "JPY") .one) =
      .ok { negative := false, mantissa := 1000000, scale := 2 } := by
  decide

end Converter

end Forex
