import Forex.Proofs.Decimal.Division
import Forex.Proofs.Rate.Table
import Forex.Proofs.Registry.Step

namespace Forex

namespace RateTable

variable {t : RateTable} {d e : ExchangeRate} {code : Code}

theorem mem_of_mem_putBothWays (h : d ∈ (t.putBothWays e).edges) :
    d = e.back ∨ d = e ∨ d ∈ t.edges := by
  rcases eq_or_mem_of_mem_upsert h with h | h
  · exact .inl h
  · exact .inr (eq_or_mem_of_mem_upsert (edges_erase_subset _ _ h))

theorem back_mem_putBothWays (t : RateTable) (e : ExchangeRate) :
    e.back ∈ (t.putBothWays e).edges := mem_upsert_self _ _

theorem mem_of_mem_pin (h : d ∈ (t.pin code).edges) :
    d = { pair := ⟨.neutral, code⟩, rate := .one } ∨
      d = { pair := ⟨code, .neutral⟩, rate := .one } ∨ d ∈ t.edges := by
  rcases eq_or_mem_of_mem_upsert h with h | h
  · exact .inl h
  · exact .inr (eq_or_mem_of_mem_upsert h)

def Positive (t : RateTable) : Prop := ∀ e ∈ t.edges, .zero < e.rate

end RateTable

namespace Registry

variable {r s : Registry} {c : Change} {d e : ExchangeRate}

def Change.rate? : Change → Option ExchangeRate
  | createRate e | updateRate e => some e
  | _ => none

theorem Step.accepts (hs : Step r c s) (he : c.rate? = some e) : r.Accepts e := by
  cases hs with
  | createRate _ ha =>
    obtain rfl := Option.some.inj he
    exact ha
  | updateRate _ ha =>
    obtain rfl := Option.some.inj he
    exact ha
  | createCurrency | updateCurrency | changeDefault | deleteRate => cases he

theorem Step.back_mem (hs : Step r c s) (he : c.rate? = some e) : e.back ∈ s.rates.edges := by
  cases hs with
  | createRate | updateRate =>
    obtain rfl := Option.some.inj he
    exact r.rates.back_mem_putBothWays _
  | createCurrency | updateCurrency | changeDefault | deleteRate => cases he

theorem Step.mem_edges (hs : Step r c s) (hd : d ∈ s.rates.edges) :
    d ∈ r.rates.edges ∨
      (∃ code, d = { pair := ⟨.neutral, code⟩, rate := .one } ∨
        d = { pair := ⟨code, .neutral⟩, rate := .one }) ∨
      ∃ e, c.rate? = some e ∧ (d = e.back ∨ d = e) := by
  cases hs with
  | createCurrency | updateCurrency => exact .inl hd
  | @changeDefault id next =>
    rcases RateTable.mem_of_mem_pin hd with hd | hd | hd
    · exact .inr (.inl ⟨next.code, .inl hd⟩)
    · exact .inr (.inl ⟨next.code, .inr hd⟩)
    · exact .inl hd
  | @createRate e | @updateRate e =>
    rcases RateTable.mem_of_mem_putBothWays hd with hd | hd | hd
    · exact .inr (.inr ⟨e, rfl, .inl hd⟩)
    · exact .inr (.inr ⟨e, rfl, .inr hd⟩)
    · exact .inl hd
  | @deleteRate p e rest hedge =>
    have hrest := RateTable.erase_of_remove? _ _ _ hedge
    subst hrest
    exact .inl (RateTable.edges_erase_subset _ _ (RateTable.edges_erase_subset _ _ hd))

/-- A positive table stays positive exactly if the rate back of the new rate is not rounded to
zero. -/
theorem Step.positive_iff (h : r.rates.Positive) (hs : Step r c s) :
    s.rates.Positive ↔ ∀ e, c.rate? = some e → e.rate < .vanishing := by
  constructor
  · intro hpos e he
    exact (Decimal.reciprocal_pos_iff (hs.accepts he).positive).1 (hpos _ (hs.back_mem he))
  · intro hbound d hd
    rcases hs.mem_edges hd with hd | ⟨code, rfl | rfl⟩ | ⟨e, he, rfl | rfl⟩
    · exact h d hd
    · exact Decimal.zero_lt_one
    · exact Decimal.zero_lt_one
    · exact (Decimal.reciprocal_pos_iff (hs.accepts he).positive).2 (hbound e he)
    · exact (hs.accepts he).positive

theorem Step.nonneg (h : ∀ e ∈ r.rates.edges, .zero ≤ e.rate) (hs : Step r c s) :
    ∀ e ∈ s.rates.edges, .zero ≤ e.rate := by
  intro d hd
  rcases hs.mem_edges hd with hd | ⟨code, rfl | rfl⟩ | ⟨e, he, rfl | rfl⟩
  · exact h d hd
  · exact Int.le_of_lt Decimal.zero_lt_one
  · exact Int.le_of_lt Decimal.zero_lt_one
  · exact Decimal.reciprocal_nonneg (hs.accepts he).positive
  · exact Int.le_of_lt (hs.accepts he).positive

/-- No rate is ever negative, and all are positive throughout a run exactly if every rate that is
accepted in it is less than `2 * 10 ^ 28`. -/
theorem rates_positive_iff (changes : List Change) :
    (∀ e ∈ (afterAll changes initial).rates.edges, .zero ≤ e.rate) ∧
    ((∀ before, before <+: changes →
        ∀ e ∈ (afterAll before initial).rates.edges, .zero < e.rate) ↔
      ∀ before (c : Change), c.SucceedsIn before changes →
        ∀ e, c.rate? = some e → e.rate < .vanishing) := by
  constructor
  · have hinit : ∀ e ∈ initial.rates.edges, .zero ≤ e.rate := fun _ he ↦ nomatch he
    exact afterAll_induct (fun _ _ _ h hs ↦ hs.nonneg h) changes hinit
  · have hinit : initial.rates.Positive := fun _ he ↦ nomatch he
    exact throughout_iff hinit (fun _ _ _ h hs ↦ hs.positive_iff h) changes

def priceDollar (rate : Decimal) : List Change := [
  .createCurrency { Currency.neutral with code := .ofText "USD", title := "Dollar" },
  .createRate { pair := ⟨.neutral, .ofText "USD"⟩, rate }]

def almostVanishing : Decimal :=
  { Decimal.vanishing with mantissa := 19999999999999999999999999999, mantissa_lt := by decide }

theorem rates_positive_iff_almostVanishing :
    { pair := ⟨.neutral, .ofText "USD"⟩, rate := almostVanishing } ∈
      (afterAll (priceDollar almostVanishing) initial).rates.edges ∧
    ∀ e ∈ (afterAll (priceDollar almostVanishing) initial).rates.edges, .zero < e.rate := by
  refine ⟨by decide +kernel, (rates_positive_iff _).2.2 ?_ _ List.prefix_rfl⟩
  intro before c hc e he
  have hmem : c ∈ priceDollar almostVanishing := hc.1.subset (by simp)
  simp only [priceDollar, List.mem_cons, List.not_mem_nil, or_false] at hmem
  rcases hmem with rfl | rfl
  · cases he
  · obtain rfl := Option.some.inj he
    exact (by decide : almostVanishing < .vanishing)

theorem zero_rate_of_vanishing :
    ¬∀ e ∈ (afterAll (priceDollar .vanishing) initial).rates.edges, .zero < e.rate := by
  decide +kernel

end Registry

end Forex
