import Forex.Proofs.Rate.Written

namespace Forex.Registry

variable {r s : Registry} {c : Change} {p : Pair} {trusted : List Pair}

/-- A pair in the table after a step was there before or touches the neutral unit, or it leads back
from the pair of an update. -/
theorem Step.mem_pairs (hs : Step r c s) (hp : p ∈ s.rates.pairs) :
    p ∈ r.rates.pairs ∨ p.touchesNeutral ∨
      ∃ e, c = .updateRate e ∧ e.pair ∈ r.rates.pairs ∧ p = e.pair.swap := by
  have hneutral : Code.neutral.isNeutral := rfl
  obtain ⟨d, hd, rfl⟩ := List.mem_map.1 hp
  rcases hs.mem_edges hd with hd | ⟨code, rfl | rfl⟩ | ⟨e, he, hd⟩
  · exact .inl (List.mem_map_of_mem hd)
  · exact .inr (.inl (by simp [Pair.touchesNeutral, hneutral]))
  · exact .inr (.inl (by simp [Pair.touchesNeutral, hneutral]))
  · cases hs with
    | createRate htouches =>
      obtain rfl := Option.some.inj he
      rcases hd with rfl | rfl
      · exact .inr (.inl (by rwa [ExchangeRate.back, Pair.touchesNeutral_swap]))
      · exact .inr (.inl htouches)
    | updateRate hedge =>
      obtain rfl := Option.some.inj he
      have hpair := (r.rates.get?_isSome_iff _).1 hedge
      rcases hd with rfl | rfl
      · exact .inr (.inr ⟨_, rfl, hpair, rfl⟩)
      · exact .inl hpair
    | createCurrency | updateCurrency | changeDefault | deleteRate => cases he

def NewTouchesNeutral (trusted : List Pair) (r : Registry) : Prop :=
  ∀ p ∈ r.rates.pairs, p ∉ trusted → p.touchesNeutral

def NewLeadsBack (trusted : List Pair) (r : Registry) : Prop :=
  ∀ p ∈ r.rates.pairs, p ∉ trusted → p.touchesNeutral ∨ p.swap ∈ trusted

/-- An update is of a pair that touches the neutral unit, or of one whose way back was trusted. -/
def Change.KeepsRule (trusted : List Pair) : Change → Prop
  | updateRate e => e.pair.touchesNeutral ∨ e.pair.swap ∈ trusted
  | _ => True

theorem NewLeadsBack.step (h : r.NewLeadsBack trusted) (hs : Step r c s) :
    s.NewLeadsBack trusted := by
  intro p hp hnew
  rcases hs.mem_pairs hp with hp | htouches | ⟨e, -, hpair, rfl⟩
  · exact h p hp hnew
  · exact .inl htouches
  · rw [Pair.swap_swap, Pair.touchesNeutral_swap]
    by_cases htrusted : e.pair ∈ trusted
    · exact .inr htrusted
    · -- A way back from a trusted pair cannot be updated into a new pair.
      exact .inl ((h e.pair hpair htrusted).resolve_right hnew)

theorem Step.newTouchesNeutral_iff (h : r.NewTouchesNeutral trusted) (hs : Step r c s) :
    s.NewTouchesNeutral trusted ↔ c.KeepsRule trusted := by
  constructor
  · intro hafter
    cases c with
    | updateRate e =>
      by_cases hswap : e.pair.swap ∈ trusted
      · exact .inr hswap
      · have htouches := hafter _ (List.mem_map_of_mem (hs.back_mem rfl)) hswap
        exact .inl (by rwa [← Pair.touchesNeutral_swap])
    | createCurrency | updateCurrency | changeDefault | createRate | deleteRate => trivial
  · intro hrule p hp hnew
    rcases hs.mem_pairs hp with hp | htouches | ⟨e, rfl, -, rfl⟩
    · exact h p hp hnew
    · exact htouches
    · rw [Pair.touchesNeutral_swap]
      exact hrule.resolve_right hnew

/-- Whatever a registry was restored from, an edge of a new pair touches the neutral unit or leads
back from a restored edge. New edges touch the neutral unit throughout a run exactly if every update
that is accepted in it is of a pair that touches the neutral unit, or of one whose edge back was
restored as well. -/
theorem new_edges_neutral_iff (currencies : List Currency) (rates : RateTable)
    (changes : List Change) :
    (∀ e ∈ (afterAll changes (ofParts currencies rates)).rates.edges, e.pair ∉ rates.pairs →
      e.pair.touchesNeutral ∨ e.pair.swap ∈ rates.pairs) ∧
    ((∀ before, before <+: changes →
        ∀ e ∈ (afterAll before (ofParts currencies rates)).rates.edges, e.pair ∉ rates.pairs →
          e.pair.touchesNeutral) ↔
      ∀ before e, (Change.updateRate e).SucceedsFrom (ofParts currencies rates) before changes →
        e.pair.touchesNeutral ∨ e.pair.swap ∈ rates.pairs) := by
  constructor
  · have hstart : (ofParts currencies rates).NewLeadsBack rates.pairs :=
      fun p hp hnew ↦ absurd hp hnew
    have hback := afterAll_induct (fun _ _ _ h hs ↦ h.step hs) changes hstart
    exact fun e he ↦ hback e.pair (List.mem_map_of_mem he)
  · have hstart : (ofParts currencies rates).NewTouchesNeutral rates.pairs :=
      fun p hp hnew ↦ absurd hp hnew
    have hiff := throughout_from_iff hstart
      (V := fun r ↦ ∀ e ∈ r.rates.edges, e.pair ∉ rates.pairs → e.pair.touchesNeutral)
      (fun r h e he ↦ h e.pair (List.mem_map_of_mem he))
      (fun r c s h hs hafter ↦ (hs.newTouchesNeutral_iff h).1 (List.forall_mem_map.2 hafter))
      (fun r c s h hs ↦ (hs.newTouchesNeutral_iff h).2) changes
    refine hiff.trans ⟨fun h before e ↦ h before (.updateRate e), fun h before c hc ↦ ?_⟩
    cases c with
    | updateRate e => exact h before e hc
    | createCurrency | updateCurrency | changeDefault | createRate | deleteRate => trivial

def dollarAndEuro : List Currency := [
  { Currency.neutral with id := 1, code := .ofText "USD", title := "Dollar" },
  { Currency.neutral with id := 2, code := .ofText "EUR", title := "Euro" }]

def dollarToEuro : ExchangeRate := { pair := ⟨.ofText "USD", .ofText "EUR"⟩, rate := .hundred }

def restoredBothWays : RateTable :=
  ⟨[dollarToEuro, dollarToEuro.back, { pair := ⟨.neutral, .ofText "EUR"⟩, rate := .one }]⟩

def updatesOfRestored : List Change := [
  .updateRate { dollarToEuro with rate := .one },
  .updateRate { pair := ⟨.neutral, .ofText "EUR"⟩, rate := .hundred },
  .changeDefault 1]

theorem new_edges_neutral_iff_updatesOfRestored :
    (afterAll updatesOfRestored (ofParts dollarAndEuro restoredBothWays)).rates.edges.length = 6 ∧
    ∀ e ∈ (afterAll updatesOfRestored (ofParts dollarAndEuro restoredBothWays)).rates.edges,
      e.pair ∉ restoredBothWays.pairs → e.pair.touchesNeutral := by
  refine ⟨by decide, (new_edges_neutral_iff _ _ updatesOfRestored).2.2
    (fun before e hc ↦ ?_) updatesOfRestored List.prefix_rfl⟩
  have hmem : Change.updateRate e ∈ updatesOfRestored := hc.1.subset (by simp)
  simp only [updatesOfRestored, List.mem_cons, List.not_mem_nil, or_false, reduceCtorEq,
    Change.updateRate.injEq] at hmem
  rcases hmem with rfl | rfl
  · exact .inr (by decide)
  · exact .inl rfl

theorem new_edge_of_oneSided :
    ¬∀ e ∈ (afterAll [.updateRate { dollarToEuro with rate := .one }]
        (ofParts dollarAndEuro ⟨[dollarToEuro]⟩)).rates.edges,
      e.pair ∉ RateTable.pairs ⟨[dollarToEuro]⟩ → e.pair.touchesNeutral := by
  decide

end Forex.Registry
