import Forex.Proofs.Rate.Detect
import Forex.Proofs.Rate.Mirrored
import Forex.Proofs.Rate.Written

namespace Forex

theorem Pair.eq_swap_iff {p : Pair} : p = p.swap ↔ p.source = p.target := by
  cases p
  simp only [swap, Pair.mk.injEq]
  exact ⟨fun h ↦ h.1, fun h ↦ ⟨h, h.symm⟩⟩

theorem ExchangeRate.pair_ne_of_pinned {d : ExchangeRate} {p : Pair} (h : d.isPin)
    (hends : p.source ≠ d.pinned ∧ p.target ≠ d.pinned) : d.pair ≠ p ∧ d.pair ≠ p.swap := by
  rcases joins_iff.1 (joins_pinned h).2 with hpair | hpair
  · rw [hpair]
    exact ⟨fun hp ↦ hends.1 (congrArg Pair.source hp).symm,
      fun hp ↦ hends.2 (congrArg Pair.source hp).symm⟩
  · rw [hpair]
    exact ⟨fun hp ↦ hends.2 (congrArg Pair.target hp).symm,
      fun hp ↦ hends.1 (congrArg Pair.target hp).symm⟩

namespace RateTable

variable {t : RateTable} {es : List ExchangeRate} {d e : ExchangeRate} {p : Pair}
variable {q : ExchangeRate → Bool}

theorem putEdge_of_notMem (h : e.pair ∉ es.map (·.pair)) : putEdge e es = es ++ [e] := by
  induction es with
  | nil => rfl
  | cons x xs ih =>
    rw [List.map_cons, List.mem_cons, not_or] at h
    rw [putEdge, if_neg (Ne.symm h.1), ih h.2, List.cons_append]

theorem find?_putEdge_of_not (hq : q e = false) (hne : d.pair ≠ e.pair)
    (h : es.find? q = some d) : (putEdge e es).find? q = some d := by
  induction es with
  | nil => cases h
  | cons x xs ih =>
    unfold putEdge
    by_cases hx : q x
    · obtain rfl : x = d := by simpa [hx] using h
      rw [if_neg hne]
      simp [hx]
    · have hrest : xs.find? q = some d := by simpa [hx] using h
      split
      case isTrue => simpa [hq] using hrest
      case isFalse => simpa [hx] using ih hrest

theorem find?_takeEdge?_of_ne (hne : d.pair ≠ p) (h : es.find? q = some d) :
    ((takeEdge? p es).elim es (·.2)).find? q = some d := by
  induction es with
  | nil => cases h
  | cons x xs ih =>
    unfold takeEdge?
    by_cases hx : q x
    · obtain rfl : x = d := by simpa [hx] using h
      rw [if_neg hne]
      cases takeEdge? p xs <;> simp [hx]
    · have hrest : xs.find? q = some d := by simpa [hx] using h
      split
      case isTrue => simpa using hrest
      case isFalse =>
        have htail := ih hrest
        cases htake : takeEdge? p xs with
        | none => simpa [hx] using hrest
        | some y =>
          rw [htake] at htail
          simpa [hx] using htail

theorem find?_erase_of_ne (hne : d.pair ≠ p) (h : t.edges.find? q = some d) :
    (t.erase p).edges.find? q = some d := by
  rw [edges_erase]
  exact find?_takeEdge?_of_ne hne h

/-- The pairs of the edges before the first that shows a base. -/
def pairsBeforePin (t : RateTable) : List Pair :=
  (t.edges.takeWhile fun e ↦ !e.isPin).map (·.pair)

theorem pairsBeforePin_subset (t : RateTable) : t.pairsBeforePin ⊆ t.pairs :=
  List.map_subset _ (List.takeWhile_sublist _).subset

theorem find?_isPin_putEdge (hpin : e.isPin) (hne : d.pair ≠ e.pair)
    (h : es.find? (·.isPin) = some d) :
    (putEdge e es).find? (·.isPin) =
      some (if e.pair ∈ (es.takeWhile fun e ↦ !e.isPin).map (·.pair) then e else d) := by
  induction es with
  | nil => cases h
  | cons x xs ih =>
    unfold putEdge
    by_cases hx : x.isPin
    · obtain rfl : x = d := by simpa [hx] using h
      rw [if_neg hne]
      simp [hx]
    · have hrest : xs.find? (·.isPin) = some d := by simpa [hx] using h
      by_cases hpair : x.pair = e.pair
      · simp [hx, hpair, hpin]
      · simpa [hx, hpair, Ne.symm hpair] using ih hrest

theorem find?_isPin_upsert (hne : d.pair ≠ e.pair) (h : t.edges.find? (·.isPin) = some d) :
    (t.upsert e).edges.find? (·.isPin) =
      some (if e.isPin ∧ e.pair ∈ t.pairsBeforePin then e else d) := by
  by_cases hpin : e.isPin
  · simp only [hpin, true_and]
    exact find?_isPin_putEdge hpin hne h
  · simp only [hpin, Bool.false_eq_true, false_and, if_false]
    exact find?_putEdge_of_not (by simpa using hpin) hne h

/-- The edge back is taken out and put at the end, so that it is not the first to show a base. -/
theorem find?_isPin_putBothWays (hnodup : t.pairs.Nodup) (hne : d.pair ≠ e.pair)
    (hback : d.pair ≠ e.pair.swap) (h : t.edges.find? (·.isPin) = some d) :
    (t.putBothWays e).edges.find? (·.isPin) =
      some (if e.isPin ∧ e.pair ∈ t.pairsBeforePin then e else d) := by
  have hother : (if e.isPin ∧ e.pair ∈ t.pairsBeforePin then e else d).pair ≠ e.pair.swap := by
    split
    case isTrue hpin =>
      have hends : e.pair.source ≠ e.pair.target := by
        have hpin := hpin.1
        simp only [ExchangeRate.isPin, Bool.and_eq_true, bne_iff_ne] at hpin
        exact hpin.2
      exact fun hswap ↦ hends (congrArg Pair.source hswap)
    case isFalse => exact hback
  have herased := find?_erase_of_ne hother (find?_isPin_upsert hne h)
  have hfresh : e.back.pair ∉ ((t.upsert e).erase e.pair.swap).pairs := by
    rw [pairs_erase]
    exact (nodup_pairs_upsert t e hnodup).not_mem_erase
  have hend : (t.putBothWays e).edges = ((t.upsert e).erase e.pair.swap).edges ++ [e.back] :=
    putEdge_of_notMem hfresh
  rw [hend, List.find?_append, herased, Option.some_or]

end RateTable

namespace Registry

variable {r s : Registry} {c : Change} {d e : ExchangeRate} {p : Pair} {code : Code}

def Change.pair? : Change → Option Pair
  | createRate e | updateRate e => some e.pair
  | deleteRate p => some p
  | _ => none

theorem Change.pair_of_rate? (he : c.rate? = some e) (hp : c.pair? = some p) : e.pair = p := by
  cases c with
  | createRate | updateRate =>
    obtain rfl := Option.some.inj he
    exact Option.some.inj hp
  | createCurrency | updateCurrency | changeDefault | deleteRate => cases he

theorem Step.eq_withRate (hs : Step r c s) (he : c.rate? = some e) : s = r.withRate e := by
  cases hs with
  | createRate | updateRate =>
    obtain rfl := Option.some.inj he
    rfl
  | createCurrency | updateCurrency | changeDefault | deleteRate => cases he

theorem Step.rates_eq (hs : Step r c s) (he : c.rate? = some e) :
    s.rates = r.rates.putBothWays e := congrArg Registry.rates (hs.eq_withRate he)

/-- After an edit of a pair that does not mention the base, the table shows the same base, or the
one that the written edge shows. -/
theorem Step.detectDefault_eq (hs : Step r c s) (hnodup : r.rates.pairs.Nodup)
    (hbase : r.rates.detectDefault = some code) (hp : c.pair? = some p)
    (hends : p.source ≠ code ∧ p.target ≠ code) :
    s.rates.detectDefault =
      some (match c.rate? with
        | some e => if e.isPin ∧ p ∈ r.rates.pairsBeforePin then e.pinned else code
        | none => code) := by
  rw [RateTable.detectDefault_eq] at hbase ⊢
  obtain ⟨d, hd, rfl⟩ := Option.map_eq_some_iff.1 hbase
  obtain ⟨hne, hback⟩ := ExchangeRate.pair_ne_of_pinned (List.find?_some hd) hends
  cases hs with
  | createRate | updateRate =>
    obtain rfl := Option.some.inj hp
    have hfirst := RateTable.find?_isPin_putBothWays hnodup hne hback hd
    exact (congrArg (Option.map (·.pinned)) hfirst).trans
      (congrArg some (apply_ite ExchangeRate.pinned _ _ _))
  | deleteRate hedge =>
    obtain rfl := Option.some.inj hp
    have hrest := RateTable.erase_of_remove? _ _ _ hedge
    subst hrest
    have hfirst := RateTable.find?_erase_of_ne hback (RateTable.find?_erase_of_ne hne hd)
    exact congrArg (Option.map (·.pinned)) hfirst
  | createCurrency | updateCurrency | changeDefault => cases hp

/-- An edit of a rate that does not mention the base keeps the base, unless it gives the rate one to
an edge that stands before all edges that show a base. Then the table shows the end of this edge
that is not the neutral unit. -/
theorem base_kept_iff (h : Reachable r) (hbase : r.rates.detectDefault = some code)
    (hp : c.pair? = some p) (hends : p.source ≠ code ∧ p.target ≠ code)
    (hrun : c.edit.run r = .ok () s) :
    (s.rates.detectDefault = some code ↔
      ∀ e, c.rate? = some e → e.rate.SameValue .one → p.source ≠ p.target →
        p ∉ r.rates.pairsBeforePin) ∧
    (s.rates.detectDefault ≠ some code →
      s.rates.detectDefault = some (if p.source.isNeutral then p.target else p.source)) := by
  have hshown := (step_of_run_eq_ok hrun).detectDefault_eq h.mirrored.nodup hbase hp hends
  cases hrate : c.rate? with
  | none =>
    rw [hrate] at hshown
    exact ⟨iff_of_true hshown fun e he ↦ (nomatch he), fun hne ↦ absurd hshown hne⟩
  | some e =>
    obtain rfl := Change.pair_of_rate? hrate hp
    have hpin (hmem : e.pair ∈ r.rates.pairsBeforePin) :
        e.isPin ↔ e.rate.SameValue .one ∧ e.pair.source ≠ e.pair.target := by
      have htouches := h.mirrored.neutral e.pair (RateTable.pairsBeforePin_subset _ hmem)
      simp [ExchangeRate.isPin, htouches]
    simp only [hrate] at hshown
    by_cases hmoves : e.isPin ∧ e.pair ∈ r.rates.pairsBeforePin
    · have hpeg := (hpin hmoves.2).1 hmoves.1
      have hother : e.pinned ≠ code := by
        unfold ExchangeRate.pinned
        split
        case isTrue => exact hends.2
        case isFalse => exact hends.1
      rw [if_pos hmoves] at hshown
      refine ⟨iff_of_false (fun hkept ↦ ?_) fun hkept ↦ ?_, fun _ ↦ hshown⟩
      · exact hother (Option.some.inj (hshown.symm.trans hkept))
      · exact hkept e rfl hpeg.1 hpeg.2 hmoves.2
    · rw [if_neg hmoves] at hshown
      refine ⟨iff_of_true hshown fun e' he hone hloop hmem ↦ ?_, fun hne ↦ absurd hshown hne⟩
      obtain rfl := Option.some.inj he
      exact hmoves ⟨(hpin hmem).2 ⟨hone, hloop⟩, hmem⟩

def pricedEuro (rate : Decimal) : ExchangeRate := { pair := ⟨.neutral, .ofText "EUR"⟩, rate }

def peggedDollar : ExchangeRate := { pair := ⟨.neutral, .ofText "USD"⟩, rate := .one }

def pricedIn (first second : ExchangeRate) : Registry :=
  afterAll [
    .createCurrency { Currency.neutral with code := .ofText "EUR", title := "Euro" },
    .createCurrency { Currency.neutral with code := .ofText "USD", title := "Dollar" },
    .createRate first, .createRate second] initial

theorem base_kept_iff_peggedBehind :
    (Change.updateRate (pricedEuro .one)).edit.run (pricedIn peggedDollar (pricedEuro .hundred)) =
      .ok () ((pricedIn peggedDollar (pricedEuro .hundred)).withRate (pricedEuro .one)) ∧
    ((pricedIn peggedDollar (pricedEuro .hundred)).withRate (pricedEuro .one)).rates.detectDefault =
      some (.ofText "USD") := by
  have hrun : (Change.updateRate (pricedEuro .one)).edit.run
      (pricedIn peggedDollar (pricedEuro .hundred)) =
      .ok () ((pricedIn peggedDollar (pricedEuro .hundred)).withRate (pricedEuro .one)) :=
    run_eq_ok_iff.2 (.updateRate (by decide) ⟨by decide, by decide, by decide⟩)
  refine ⟨hrun, (base_kept_iff ⟨_, rfl⟩ (by decide) rfl (by decide) hrun).1.2 ?_⟩
  intro e he hone hloop
  decide

theorem base_moved_by_peg :
    Reachable (pricedIn (pricedEuro .hundred) peggedDollar) ∧
    (pricedIn (pricedEuro .hundred) peggedDollar).rates.detectDefault = some (.ofText "USD") ∧
    (Change.updateRate (pricedEuro .one)).edit.run (pricedIn (pricedEuro .hundred) peggedDollar) =
      .ok () ((pricedIn (pricedEuro .hundred) peggedDollar).withRate (pricedEuro .one)) ∧
    ((pricedIn (pricedEuro .hundred) peggedDollar).withRate (pricedEuro .one)).rates.detectDefault =
      some (.ofText "EUR") := by
  refine ⟨⟨_, rfl⟩, by decide, ?_, by decide⟩
  exact run_eq_ok_iff.2 (.updateRate (by decide) ⟨by decide, by decide, by decide⟩)

/-- A rate that was written is there with its rate back. Only where both ends are the same currency
is there one edge for the two, and it keeps the rate back. -/
theorem stored_both_ways (hrate : c.rate? = some e) (hrun : c.edit.run r = .ok () s) :
    (∃ rate, Decimal.one.div e.rate = .ok rate ∧
      s.rates.get? e.pair.swap = some { e with pair := e.pair.swap, rate }) ∧
    (s.rates.get? e.pair = some e ↔
      e.pair.source ≠ e.pair.target ∨ Decimal.one.div e.rate = .ok e.rate) := by
  have hs := step_of_run_eq_ok hrun
  have hback := Decimal.one_div_eq_reciprocal (hs.accepts hrate).rate_ne_zero
  have hget := RateTable.get?_putBothWays r.rates e
  rw [← hs.rates_eq hrate] at hget
  refine ⟨⟨e.rate.reciprocal, hback, (hget _).trans (if_pos rfl)⟩, ?_⟩
  rw [hget, hback]
  by_cases hloop : e.pair = e.pair.swap
  · have hsame : e.back = e ↔ e.rate.reciprocal = e.rate :=
      ⟨congrArg ExchangeRate.rate, fun h ↦ by rw [ExchangeRate.back, ← hloop, h]⟩
    simp [← hloop, Pair.eq_swap_iff.1 hloop, hsame]
  · rw [if_neg hloop, if_pos rfl]
    exact iff_of_true rfl (.inl (mt Pair.eq_swap_iff.2 hloop))

def doubledEuro : Registry :=
  { pricedIn peggedDollar (pricedEuro .hundred) with
    rates := ⟨[pricedEuro .one, pricedEuro .hundred, (pricedEuro .one).back]⟩ }

theorem stored_both_ways_doubledEuro :
    (Change.updateRate (pricedEuro .hundred)).edit.run doubledEuro =
      .ok () (doubledEuro.withRate (pricedEuro .hundred)) ∧
    (doubledEuro.withRate (pricedEuro .hundred)).rates.get? (pricedEuro .hundred).pair =
      some (pricedEuro .hundred) := by
  have hrun : (Change.updateRate (pricedEuro .hundred)).edit.run doubledEuro =
      .ok () (doubledEuro.withRate (pricedEuro .hundred)) :=
    run_eq_ok_iff.2 (.updateRate (by decide) ⟨by decide, by decide, by decide⟩)
  exact ⟨hrun, (stored_both_ways rfl hrun).2.2 (.inl (by decide))⟩

def selfPriced : ExchangeRate := { pair := ⟨.neutral, .neutral⟩, rate := .hundred }

/-- The rate from the neutral unit to itself is replaced by its own rate back. -/
theorem selfPriced_not_stored :
    (Change.createRate selfPriced).edit.run initial = .ok () (initial.withRate selfPriced) ∧
    (initial.withRate selfPriced).rates.get? selfPriced.pair =
      some { selfPriced with rate := .hundredth } ∧
    ¬Decimal.hundredth.SameValue selfPriced.rate := by
  refine ⟨run_eq_ok_iff.2 (.createRate (by decide) ⟨by decide, by decide, by decide⟩), ?_⟩
  decide

end Registry

end Forex
