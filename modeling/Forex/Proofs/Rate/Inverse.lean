import Forex.Proofs.Decimal.Quotient
import Forex.Rate.Resolution

namespace Forex.RateTable

variable {t : RateTable} {base : Code} {p : Pair}

theorem isZero_of_usableRate? {r : Decimal} (h : t.usableRate? base p = some r) :
    r.isZero = false := by
  obtain ⟨-, hnonzero⟩ := Option.filter_eq_some_iff.1 h
  simpa using hnonzero

/-- The answer for two different currencies with these usable rates there and back. -/
def directOrInverse (there back : Option Decimal) : Option RateLookup :=
  match there with
  | some r => some ⟨r, .direct⟩
  | none => back.map fun r ↦ ⟨r.reciprocal, .inverse⟩

theorem resolveOrInverse_eq (t : RateTable) (base : Code) (hne : p.source ≠ p.target) :
    t.resolveOrInverse base p =
      .ok (directOrInverse (t.usableRate? base p) (t.usableRate? base p.swap)) := by
  rw [resolveOrInverse, if_neg hne]
  cases t.usableRate? base p with
  | some r => rfl
  | none =>
    cases hback : t.usableRate? base p.swap with
    | none => rfl
    | some r =>
      simp only [Decimal.one_div_eq_reciprocal (isZero_of_usableRate? hback)]
      rfl

theorem resolveOrInverse_self (t : RateTable) (base : Code) (h : p.source = p.target) :
    t.resolveOrInverse base p = .ok (some ⟨.one, .identity⟩) := if_pos h

/-- If the first answer is an inverse, then the second is the direct rate that it inverts. -/
def Inverts (there back : Option RateLookup) : Prop :=
  ∀ q, there = some ⟨q, .inverse⟩ → ∃ d, back = some ⟨d, .direct⟩ ∧ Decimal.one.div d = .ok q

section Answers

variable {there back : Option Decimal}

theorem isSome_directOrInverse :
    (directOrInverse there back).isSome = (there.isSome || back.isSome) := by
  cases there with
  | some r => rfl
  | none => exact Option.isSome_map

theorem directOrInverse_ne_identity :
    (directOrInverse there back).map (·.method) ≠ some .identity := by
  cases there with
  | some r => exact nofun
  | none => cases back <;> exact nofun

theorem eq_none_of_inverse (h : (directOrInverse there back).map (·.method) = some .inverse) :
    there = none ∧ back ≠ none := by
  cases there with
  | some r => cases h
  | none =>
    refine ⟨rfl, ?_⟩
    rintro rfl
    cases h

theorem directOrInverse_eq_direct_iff {d : Decimal} :
    directOrInverse there back = some ⟨d, .direct⟩ ↔ there = some d := by
  cases there with
  | some r => simp [directOrInverse]
  | none => cases back <;> simp [directOrInverse]

theorem inverts_directOrInverse (hback : ∀ d, back = some d → d.isZero = false) :
    Inverts (directOrInverse there back) (directOrInverse back there) := by
  intro q hq
  obtain ⟨rfl, hsome⟩ := eq_none_of_inverse (congrArg (Option.map (·.method)) hq)
  obtain ⟨d, rfl⟩ := Option.ne_none_iff_exists'.1 hsome
  obtain rfl : d.reciprocal = q := by simpa [directOrInverse] using hq
  exact ⟨d, rfl, Decimal.one_div_eq_reciprocal (hback d rfl)⟩

end Answers

/-- A pair has an answer exactly if its way back has one. Either is the identity exactly if the
currencies are the same. A direct answer is the rate of the pair, which is not zero; an inverse is
`1 / d` for the direct answer `d` for the other way, so both are never inverses. -/
theorem resolveOrInverse_both_ways (t : RateTable) (base : Code) (p : Pair) :
    ∃ there back, t.resolveOrInverse base p = .ok there ∧
      t.resolveOrInverse base p.swap = .ok back ∧
      (there.isSome ↔ back.isSome) ∧
      (there.map (·.method) = some .identity ↔ p.source = p.target) ∧
      (back.map (·.method) = some .identity ↔ p.source = p.target) ∧
      ¬(there.map (·.method) = some .inverse ∧ back.map (·.method) = some .inverse) ∧
      Inverts there back ∧ Inverts back there ∧
      ∀ d, there = some ⟨d, .direct⟩ ↔
        p.source ≠ p.target ∧ t.resolve base p = some d ∧ d.isZero = false := by
  by_cases hne : p.source = p.target
  · refine ⟨_, _, t.resolveOrInverse_self base hne, t.resolveOrInverse_self base hne.symm, ?_⟩
    simp [hne, Inverts]
  · refine ⟨_, _, t.resolveOrInverse_eq base hne, t.resolveOrInverse_eq base (Ne.symm hne), ?_⟩
    have hthere d (h : t.usableRate? base p = some d) := isZero_of_usableRate? h
    have hback d (h : t.usableRate? base p.swap = some d) := isZero_of_usableRate? h
    have hidentity {there back : Option Decimal} :
        (directOrInverse there back).map (·.method) = some .identity ↔ p.source = p.target :=
      iff_of_false directOrInverse_ne_identity hne
    refine ⟨?some, hidentity, hidentity, ?inverse, inverts_directOrInverse hback,
      inverts_directOrInverse hthere, ?direct⟩
    case some =>
      rw [isSome_directOrInverse, isSome_directOrInverse, Bool.or_comm, Pair.swap_swap]
    case inverse =>
      rintro ⟨h, h'⟩
      exact (eq_none_of_inverse h').2 (eq_none_of_inverse h).1
    case direct =>
      intro d
      rw [directOrInverse_eq_direct_iff, usableRate?, Option.filter_eq_some_iff,
        Bool.not_eq_true', and_iff_right hne]

example :
    let hidden : RateTable := ⟨[
      { pair := ⟨.ofText "USD", .ofText "EUR"⟩, rate := .zero },
      { pair := ⟨.neutral, .ofText "EUR"⟩, rate := .one },
      { pair := ⟨.ofText "EUR", .neutral⟩, rate := .hundred }]⟩
    hidden.resolveOrInverse (.ofText "USD") ⟨.ofText "USD", .ofText "EUR"⟩ =
      .ok (some ⟨.hundredth, .inverse⟩) ∧
    hidden.resolveOrInverse (.ofText "USD") ⟨.ofText "EUR", .ofText "USD"⟩ =
      .ok (some ⟨.hundred, .direct⟩) := by
  decide

end Forex.RateTable
