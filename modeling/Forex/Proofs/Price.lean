import Forex.Currency.Basic
import Forex.Proofs.Decimal.Rounding

namespace Forex

/-- Above zero and below a hundredth, or below zero and above minus one. -/
def SmallValue (q : ℚ) : Prop := (0 < q ∧ q < 1 / 100) ∨ (-1 < q ∧ q < 0)

/-- The value `q` is small and has become zero or is still small as `h`. -/
def StaysSmall (q h : ℚ) : Prop := SmallValue q ∧ (h = 0 ∨ SmallValue h)

def Rounding.mode : Rounding → RoundingMode
  | half => .halfAwayFromZero
  | down => .down
  | up => .up

section Window

variable {k l : Nat} {q r h : ℚ} {mode : RoundingMode}

theorem SmallValue.ne_zero (hq : SmallValue q) : q ≠ 0 := by
  rcases hq with hq | hq
  · exact hq.1.ne'
  · exact hq.2.ne

theorem onGrid_hundredth (hr : OnGrid k r) (hpos : 0 < r) (hlt : r < 1 / 100) :
    OnGrid k (1 / 100) := by
  have hk : 2 ≤ k := by
    by_contra hfew
    have htenth := (onGrid_zero 1).add_unit_le (hr.mono (by omega)) hpos
    norm_num at htenth
    linarith
  have hunit : OnGrid 2 (1 / 100) := by
    have hunit := onGrid_unit 2
    norm_num at hunit
    exact hunit
  exact hunit.mono hk

theorem SmallValue.of_gives (hr : SmallValue r) (hgives : mode.Gives k q r) : SmallValue q := by
  rcases hr with ⟨hpos, hlt⟩ | ⟨hlt, hneg⟩
  · refine .inl ⟨?_, ?_⟩ <;> by_contra hout
    · exact hpos.not_ge (hgives.ge_of_ge (onGrid_zero k) (not_lt.1 hout))
    · exact hlt.not_ge (hgives.le_of_le (onGrid_hundredth hgives.onGrid hpos hlt) (not_lt.1 hout))
  · have hone : OnGrid k (-1) := by exact_mod_cast onGrid_intCast k (-1)
    refine .inr ⟨?_, ?_⟩ <;> by_contra hout
    · exact hlt.not_ge (hgives.ge_of_ge hone (not_lt.1 hout))
    · exact hneg.not_ge (hgives.le_of_le (onGrid_zero k) (not_lt.1 hout))

theorem SmallValue.eq_end (hq : SmallValue q) (hgives : mode.Gives 10 q h)
    (hout : ¬(h = 0 ∨ SmallValue h)) : 0 < q ∧ q < h ∧ h = 1 / 100 ∨ q < 0 ∧ h < q ∧ h = -1 := by
  rw [not_or] at hout
  rcases hq with ⟨hpos, hlt⟩ | ⟨hlt, hneg⟩
  · have hend : OnGrid 10 (1 / 100) := ⟨10 ^ 8, by norm_num⟩
    have hzero := hgives.le_of_le (onGrid_zero 10) hpos.le
    have hle := hgives.ge_of_ge hend hlt.le
    have hpos' : 0 < h := lt_of_le_of_ne hzero (Ne.symm hout.1)
    have heq : h = 1 / 100 := hle.antisymm (not_lt.1 fun hlt ↦ hout.2 (.inl ⟨hpos', hlt⟩))
    exact .inl ⟨hpos, heq ▸ hlt, heq⟩
  · have hend : OnGrid 10 (-1) := by exact_mod_cast onGrid_intCast 10 (-1)
    have hzero := hgives.ge_of_ge (onGrid_zero 10) hneg.le
    have hle := hgives.le_of_le hend hlt.le
    have hneg' : h < 0 := lt_of_le_of_ne hzero hout.1
    have heq : h = -1 := (hle.antisymm (not_lt.1 fun hlt ↦ hout.2 (.inr ⟨hlt, hneg'⟩))).symm
    exact .inr ⟨hneg, heq ▸ hlt, heq⟩

variable (hq : SmallValue q) (hh : RoundingMode.halfAwayFromZero.Gives 10 q h)
variable (hout : ¬(h = 0 ∨ SmallValue h)) (hr : mode.Gives k q r)
include hq hh hout hr

theorem gives_end_of_gives (hk : 10 < k) : RoundingMode.halfAwayFromZero.Gives 10 r h := by
  rcases hq.eq_end hh hout with ⟨hpos, hlt, -⟩ | ⟨hneg, hlt, -⟩
  · exact hh.of_finer hr hk hpos.le hlt.le
  · have hopposite := RoundingMode.Gives.of_finer hh.neg hr.neg hk (neg_nonneg.2 hneg.le)
      (neg_le_neg hlt.le)
    simpa [RoundingMode.opposite] using hopposite.neg

/-- With up to ten places the value is small only if it needs all of them. -/
theorem not_onGrid_of_gives (hk : k ≤ 10) (hlk : l < k) (hsmall : SmallValue r) : ¬OnGrid l r := by
  intro hcoarse
  have hend : OnGrid l h := by
    rcases hq.eq_end hh hout with ⟨hpos, -, rfl⟩ | ⟨-, -, rfl⟩
    · have hnonneg := hr.le_of_le (onGrid_zero k) hpos.le
      rcases hsmall with hr | hr
      · exact onGrid_hundredth hcoarse hr.1 hr.2
      · exact absurd hr.2 hnonneg.not_gt
    · exact_mod_cast onGrid_intCast l (-1)
  have hunit : (1 : ℚ) / 10 ^ k ≤ 1 / 10 ^ l / 10 := by
    rw [div_div, ← pow_succ]
    exact one_div_le_one_div_of_le (by positivity) (pow_le_pow_right₀ (by norm_num) hlk)
  have hten : (1 : ℚ) / 2 / 10 ^ 10 ≤ 1 / 10 ^ k / 2 := by
    rw [div_right_comm]
    gcongr
    norm_num
  have hclose : |r - h| < 1 / 10 ^ l := by
    have hpos : (0 : ℚ) < 1 / 10 ^ l := by positivity
    calc |r - h| ≤ |r - q| + |q - h| := abs_sub_le r q h
      _ = |q - r| + |q - h| := by rw [abs_sub_comm r q]
      _ < 1 / 10 ^ k + 1 / 2 / 10 ^ 10 := add_lt_add_of_lt_of_le hr.abs_sub_lt hh.1.abs_sub_le
      _ < 1 / 10 ^ l := by linarith
  exact hout (.inr (hcoarse.eq_of_abs_sub_lt hend hclose ▸ hsmall))

end Window

namespace Decimal

variable {a : Decimal} {k : Nat}

theorem isSmall_iff (a : Decimal) : a.isSmall ↔ SmallValue a.toRat := by
  have hhundredth : hundredth.toRat = 1 / 100 := by norm_num [toRat, signed, hundredth]
  have hminus : toRat { one with negative := true } = -1 := by simp [toRat, signed, one]
  simp only [isSmall, Bool.or_eq_true, Bool.and_eq_true, decide_eq_true_eq, lt_iff_toRat_lt,
    toRat_zero, hhundredth, hminus, SmallValue]

theorem smallPrice?_of_staysSmall
    (h : StaysSmall a.toRat (a.round 10 .halfAwayFromZero).toRat) :
    a.smallPrice? = some (a.round 10 .halfAwayFromZero).normalize.plainZero := by
  unfold smallPrice?
  rw [if_pos ((isSmall_iff a).2 h.1)]
  refine if_pos ?_
  rw [Bool.or_eq_true, ← toRat_eq_zero_iff, isSmall_iff, toRat_normalize]
  exact h.2

theorem smallPrice?_of_not_staysSmall
    (h : ¬StaysSmall a.toRat (a.round 10 .halfAwayFromZero).toRat) : a.smallPrice? = none := by
  unfold smallPrice?
  split
  case isTrue hsmall =>
    refine if_neg fun hten ↦ h ⟨(isSmall_iff a).1 hsmall, ?_⟩
    rwa [Bool.or_eq_true, ← toRat_eq_zero_iff, isSmall_iff, toRat_normalize] at hten
  case isFalse => rfl

theorem gives_toPlaces (a : Decimal) (k : Nat) (rounding : Rounding) :
    rounding.mode.Gives k a.toRat (a.toPlaces k rounding).toRat := by
  cases rounding with
  | half =>
    unfold toPlaces fixPlaces
    rw [toRat_rescale (scale_round_le a k _)]
    exact a.gives_round k .halfAwayFromZero
  | down => exact a.gives_round k .down
  | up => exact a.gives_round k .up

theorem scale_toPlaces_le (a : Decimal) (k : Nat) (rounding : Rounding) :
    (a.toPlaces k rounding).scale ≤ k := by
  cases rounding with
  | half => exact scale_rescale_le (scale_round_le a k _)
  | down => exact scale_round_le a k .down
  | up => exact scale_round_le a k .up

theorem toRat_toPlaces_of_scale_le (h : a.scale ≤ k) (rounding : Rounding) :
    (a.toPlaces k rounding).toRat = a.toRat :=
  (a.gives_toPlaces k rounding).unique (.self _ (a.onGrid_toRat.mono h))

theorem toPlaces_toPlaces (a : Decimal) (k : Nat) (rounding : Rounding) :
    (a.toPlaces k rounding).toPlaces k rounding = a.toPlaces k rounding := by
  have hscale := a.scale_toPlaces_le k rounding
  cases rounding with
  | half =>
    have hround := (a.toPlaces k .half).round_of_scale_le hscale .halfAwayFromZero
    exact (congrArg (rescale · k) hround).trans (rescale_rescale (scale_round_le a k _))
  | down => exact round_of_scale_le hscale .down
  | up => exact round_of_scale_le hscale .up

theorem scale_fixPlaces (hplaces : k ≤ 28)
    (hfits : |(a.fixPlaces k).toRat| * 10 ^ k < mantissaBound) :
    (a.fixPlaces k).scale = k := by
  have hscale := scale_round_le a k .halfAwayFromZero
  rw [fixPlaces, toRat_rescale hscale] at hfits
  exact scale_rescale hscale hplaces hfits

variable {precision : UInt32} {rounding : Rounding}

theorem toPrice_of_staysSmall (h : StaysSmall a.toRat (a.round 10 .halfAwayFromZero).toRat) :
    a.toPrice precision rounding = (a.round 10 .halfAwayFromZero).normalize.plainZero := by
  rw [toPrice, smallPrice?_of_staysSmall h]

theorem toPrice_of_not_staysSmall
    (h : ¬StaysSmall a.toRat (a.round 10 .halfAwayFromZero).toRat) :
    a.toPrice precision rounding = (a.toPlaces (places precision) rounding).plainZero := by
  rw [toPrice, smallPrice?_of_not_staysSmall h]
  dsimp only
  split
  case isTrue hzero =>
    have hgives := a.gives_toPlaces (places precision) rounding
    rw [toRat_eq_zero_iff.2 hzero] at hgives
    exact (plainZero_of_toRat_eq_zero (hgives.unique (.self _ (onGrid_zero _)))).symm
  case isFalse => rfl

theorem toPrice_zero : zero.toPrice precision rounding = zero := by
  rw [toPrice_of_not_staysSmall fun h ↦ h.1.ne_zero toRat_zero]
  exact plainZero_of_toRat_eq_zero
    ((toRat_toPlaces_of_scale_le (Nat.zero_le _) rounding).trans toRat_zero)

theorem toRat_toPrice (hplaces : OnGrid (places precision) a.toRat) (hlarge : ¬SmallValue a.toRat) :
    (a.toPrice precision rounding).toRat = a.toRat := by
  rw [toPrice_of_not_staysSmall fun hstays ↦ hlarge hstays.1, toRat_plainZero]
  exact (a.gives_toPlaces _ rounding).unique (.self _ hplaces)

theorem gives_toPrice (hne : (a.toPrice precision rounding).toRat ≠ 0)
    (hlarge : ¬SmallValue (a.toPrice precision rounding).toRat) :
    rounding.mode.Gives (places precision) a.toRat (a.toPrice precision rounding).toRat := by
  by_cases hstays : StaysSmall a.toRat (a.round 10 .halfAwayFromZero).toRat
  · rw [toPrice_of_staysSmall hstays, toRat_plainZero, toRat_normalize] at hne hlarge
    exact absurd hstays.2 (not_or.2 ⟨hne, hlarge⟩)
  · rw [toPrice_of_not_staysSmall hstays, toRat_plainZero]
    exact a.gives_toPlaces _ rounding

theorem toPrice_of_stripped (hsmall : SmallValue a.toRat) (hscale : a.scale ≤ 10)
    (h : a.Stripped) : a.toPrice precision rounding = a := by
  have hround := a.round_of_scale_le hscale .halfAwayFromZero
  have hnonzero : a.isZero = false := isZero_eq_false_iff.2 hsmall.ne_zero
  rw [toPrice_of_staysSmall (by rw [hround]; exact ⟨hsmall, .inr hsmall⟩), hround,
    normalize_of_stripped hnonzero h, plainZero_of_toRat_ne_zero hsmall.ne_zero]

theorem plainZero_toPrice :
    (a.toPrice precision rounding).plainZero = a.toPrice precision rounding := by
  by_cases hstays : StaysSmall a.toRat (a.round 10 .halfAwayFromZero).toRat
  · rw [toPrice_of_staysSmall hstays, plainZero_plainZero]
  · rw [toPrice_of_not_staysSmall hstays, plainZero_plainZero]

/-- Every amount is shown. One that stays small at ten places is shown with these, without zeros at
the end. Any other is rounded by the mode to the places that are asked for. Every zero is plain. -/
theorem toPrice_rounds (a : Decimal) (precision : UInt32) (rounding : Rounding) :
    let shown := a.toPrice precision rounding
    let places := min precision.toNat 28
    ∃ h, (∀ w, RoundingMode.halfAwayFromZero.Gives 10 a.toRat w ↔ w = h) ∧
      (StaysSmall a.toRat h → shown.toRat = h ∧ shown.Stripped) ∧
      (¬StaysSmall a.toRat h →
        rounding.mode.Gives places a.toRat shown.toRat ∧
        (a.scale ≤ places → shown.toRat = a.toRat) ∧
        (rounding = .half → shown.toRat ≠ 0 → |shown.toRat| * 10 ^ places < 2 ^ 96 →
          shown.scale = places)) ∧
      (shown.toRat = 0 → shown = zero) := by
  intro shown places
  have hten := a.gives_round 10 .halfAwayFromZero
  refine ⟨(a.round 10 .halfAwayFromZero).toRat, ?ten, ?small, ?other, ?zero⟩
  case ten =>
    intro w
    exact ⟨fun hw ↦ hw.unique hten, fun hw ↦ hw ▸ hten⟩
  case small =>
    intro hstays
    have hshown : shown = (a.round 10 .halfAwayFromZero).normalize.plainZero :=
      toPrice_of_staysSmall hstays
    rw [hshown, toRat_plainZero, toRat_normalize]
    exact ⟨rfl, stripped_plainZero (stripped_normalize _)⟩
  case other =>
    intro hnot
    have hshown : shown = (a.toPlaces places rounding).plainZero := toPrice_of_not_staysSmall hnot
    rw [hshown, toRat_plainZero]
    refine ⟨a.gives_toPlaces places rounding, fun h ↦ toRat_toPlaces_of_scale_le h rounding, ?_⟩
    rintro rfl hne hfits
    rw [plainZero_of_toRat_ne_zero hne]
    have hbound : ((mantissaBound : ℕ) : ℚ) = 2 ^ 96 := by norm_num [mantissaBound_eq]
    exact scale_fixPlaces (places_le precision) (hbound ▸ hfits)
  case zero =>
    intro hzero
    have hplain : shown.plainZero = shown := plainZero_toPrice
    rw [← hplain, plainZero_of_toRat_eq_zero hzero]

example :
    let a : Decimal := { negative := false, mantissa := 999999999996, scale := 14 }
    a.toPrice 12 .half = { negative := false, mantissa := 10000000000, scale := 12 } ∧
    a.toPrice 14 .half = a := by
  decide

theorem toPrice_plainZero (h : a.toRat ≠ 0 → a.toPrice precision rounding = a) :
    a.plainZero.toPrice precision rounding = a.plainZero := by
  by_cases hzero : a.toRat = 0
  · rw [plainZero_of_toRat_eq_zero hzero, toPrice_zero]
  · rw [plainZero_of_toRat_ne_zero hzero, h hzero]

theorem toPrice_toPlaces (hnot : ¬StaysSmall a.toRat (a.round 10 .halfAwayFromZero).toRat)
    (hne : (a.toPlaces (places precision) rounding).toRat ≠ 0) :
    (a.toPlaces (places precision) rounding).toPrice precision rounding =
      a.toPlaces (places precision) rounding := by
  have hgives := a.gives_toPlaces (places precision) rounding
  have hscale := a.scale_toPlaces_le (places precision) rounding
  have hagain := a.toPlaces_toPlaces (places precision) rounding
  generalize a.toPlaces (places precision) rounding = shown at *
  by_cases hstays : StaysSmall shown.toRat (shown.round 10 .halfAwayFromZero).toRat
  · have hten := a.gives_round 10 .halfAwayFromZero
    have hsmall := hstays.1.of_gives hgives
    have hout := not_and.1 hnot hsmall
    have hplaces : places precision ≤ 10 := by
      by_contra hmore
      -- at ten places the result goes where the amount went, to the end of the window
      have hend := gives_end_of_gives hsmall hten hout hgives (not_le.1 hmore)
      exact hout (hend.unique (shown.gives_round 10 .halfAwayFromZero) ▸ hstays.2)
    refine toPrice_of_stripped hstays.1 (hscale.trans hplaces) (not_not.1 fun hzeros ↦ ?_)
    have hfewer : shown.scale - 1 < places precision := by
      have hsome : shown.scale ≠ 0 := (not_or.1 hzeros).1
      omega
    exact not_onGrid_of_gives hsmall hten hout hgives hplaces hfewer hstays.1
      (onGrid_of_not_stripped hzeros)
  · rw [toPrice_of_not_staysSmall hstays, hagain, plainZero_of_toRat_ne_zero hne]

/-- A price that is shown is shown as it is, to the last place. -/
theorem toPrice_toPrice :
    (∀ (a : Decimal) (precision : UInt32) (rounding : Rounding),
      (a.toPrice precision rounding).toPrice precision rounding = a.toPrice precision rounding) ∧
    ∀ (c : Currency) (a : Decimal), c.round (c.round a) = c.round a := by
  have hshown (a : Decimal) (precision : UInt32) (rounding : Rounding) :
      (a.toPrice precision rounding).toPrice precision rounding = a.toPrice precision rounding := by
    by_cases hstays : StaysSmall a.toRat (a.round 10 .halfAwayFromZero).toRat
    · rw [toPrice_of_staysSmall hstays]
      refine toPrice_plainZero fun hne ↦ ?_
      rw [toRat_normalize] at hne
      refine toPrice_of_stripped ?_ ?_ (stripped_normalize _)
      · rw [toRat_normalize]
        exact hstays.2.resolve_left hne
      · exact (scale_normalize_le _).trans (scale_round_le a 10 _)
    · rw [toPrice_of_not_staysSmall hstays]
      exact toPrice_plainZero (toPrice_toPlaces hstays)
  exact ⟨hshown, fun c a ↦ hshown a c.precision c.rounding⟩

end Decimal

end Forex
