import Forex.Proofs.Rate.Table
import Forex.Proofs.Registry.Default

namespace Forex

def Pair.sameEnds (p q : Pair) : Bool := q == p || q == p.swap

theorem Pair.sameEnds_self (p : Pair) : p.sameEnds p := by simp [sameEnds]

theorem Pair.sameEnds_swap (p : Pair) : p.sameEnds p.swap := by simp [sameEnds]

namespace RateTable

def besides (t : RateTable) (p : Pair) : List ExchangeRate :=
  t.edges.filter fun e ↦ !p.sameEnds e.pair

theorem filter_putEdge {q : Pair → Bool} {e : ExchangeRate} (hq : q e.pair = false)
    (es : List ExchangeRate) :
    (putEdge e es).filter (fun d ↦ q d.pair) = es.filter fun d ↦ q d.pair := by
  induction es with
  | nil => simp [putEdge, hq]
  | cons x xs ih =>
    unfold putEdge
    split
    case isTrue hx => simp [hx, hq]
    case isFalse => rw [List.filter_cons, List.filter_cons, ih]

theorem filter_takeEdge? {q : Pair → Bool} {p : Pair} (hq : q p = false)
    (es : List ExchangeRate) :
    ((takeEdge? p es).elim es (·.2)).filter (fun d ↦ q d.pair) = es.filter fun d ↦ q d.pair := by
  induction es with
  | nil => rfl
  | cons x xs ih =>
    unfold takeEdge?
    split
    case isTrue hx => simp [hx, hq]
    case isFalse =>
      rw [List.filter_cons (x := x), ← ih]
      cases takeEdge? p xs <;> simp [List.filter_cons]

variable (t : RateTable) (e : ExchangeRate) {p q : Pair}

theorem besides_upsert (h : p.sameEnds e.pair) : (t.upsert e).besides p = t.besides p :=
  filter_putEdge (q := fun q ↦ !p.sameEnds q) (by simp [h]) t.edges

theorem besides_erase (h : p.sameEnds q) : (t.erase q).besides p = t.besides p := by
  unfold besides
  rw [edges_erase]
  exact filter_takeEdge? (q := fun q ↦ !p.sameEnds q) (by simp [h]) t.edges

theorem besides_putBothWays : (t.putBothWays e).besides e.pair = t.besides e.pair := by
  have hback : e.pair.sameEnds e.back.pair := e.pair.sameEnds_swap
  rw [putBothWays, besides_upsert _ _ hback, besides_erase _ e.pair.sameEnds_swap,
    besides_upsert _ _ e.pair.sameEnds_self]

theorem besides_pin (code : Code) :
    (t.pin code).besides ⟨code, .neutral⟩ = t.besides ⟨code, .neutral⟩ := by
  rw [pin, besides_upsert _ _ (Pair.sameEnds_swap _), besides_upsert _ _ (Pair.sameEnds_self _)]

end RateTable

namespace Registry

variable {r s : Registry} {c : Change}

/-- What a change that succeeds leaves alone: the rate table if it is about a currency, and the
catalogue and all edges between other ends if it is about a rate. A change of the default leaves the
edges alone that do not join the new default with the neutral unit. -/
def Change.Spares (c : Change) (r s : Registry) : Prop :=
  match c with
  | createCurrency _ | updateCurrency _ => s.rates = r.rates
  | changeDefault id => ∃ next, r.currencyWithId? id = some next ∧
      s.rates.besides ⟨next.code, .neutral⟩ = r.rates.besides ⟨next.code, .neutral⟩
  | createRate e | updateRate e =>
    s.currencies = r.currencies ∧ s.rates.besides e.pair = r.rates.besides e.pair
  | deleteRate p => s.currencies = r.currencies ∧ s.rates.besides p = r.rates.besides p

theorem Step.spares (hs : Step r c s) : c.Spares r s := by
  cases hs with
  | createCurrency | updateCurrency => rfl
  | changeDefault _ _ hnext => exact ⟨_, hnext, r.rates.besides_pin _⟩
  | createRate | updateRate => exact ⟨rfl, r.rates.besides_putBothWays _⟩
  | @deleteRate p e rest hedge =>
    have hrest := RateTable.erase_of_remove? _ _ _ hedge
    subst hrest
    refine ⟨rfl, ?_⟩
    rw [RateTable.besides_erase _ p.sameEnds_swap, RateTable.besides_erase _ p.sameEnds_self]

def largestId (r : Registry) : Int32 := (r.currencies.map (·.id)).max?.getD 0

theorem largestId_lt (h : ∀ k ∈ r.currencies, k.id < Int32.maxValue) :
    r.largestId < Int32.maxValue := by
  unfold largestId
  cases hmax : (r.currencies.map (·.id)).max? with
  | none => decide
  | some m =>
    obtain ⟨k, hk, rfl⟩ := List.mem_map.1 (List.max?_mem hmax)
    exact h k hk

theorem toInt_nextId (h : ∀ k ∈ r.currencies, k.id < Int32.maxValue) :
    r.nextId.toInt = r.largestId.toInt + 1 := by
  have hnext : r.nextId = r.largestId + 1 := rfl
  have hone : (1 : Int32).toInt = 1 := rfl
  have hmax : Int32.maxValue.toInt = 2147483647 := rfl
  have hlt := Int32.lt_iff_toInt_lt.1 (largestId_lt h)
  have hge := r.largestId.le_toInt
  rw [hnext, Int32.toInt_add, hone, Int.bmod_eq_of_le] <;> omega

/-- A change that fails is refused for a cause and leaves the registry as it was, and one that
succeeds leaves alone what it is not about. The id of a new currency is counted without wrapping
around as long as every id is below the largest there can be. -/
theorem refused_or_spares (r : Registry) (c : Change) :
    (∀ e s, c.edit.run r = .error e s → s = r ∧ ∃ f, e = .refused f) ∧
    (∀ s, c.edit.run r = .ok () s → c.Spares r s) ∧
    ((∀ k ∈ r.currencies, k.id < Int32.maxValue) →
      r.nextId.toInt = r.largestId.toInt + 1) :=
  ⟨fun _ _ hrun ↦ eq_of_run_eq_error hrun, fun _ hrun ↦ (step_of_run_eq_ok hrun).spares,
    toInt_nextId⟩

def malformed : Registry := ofParts
  [{ Currency.neutral with id := 1, code := .ofText "USD", title := "Dollar", isDefault := true },
    { Currency.neutral with id := 1, code := .ofText "EUR", title := "Euro", isDefault := true }]
  ⟨[{ pair := ⟨.ofText "EUR", .ofText "PLN"⟩, rate := .one },
    { pair := ⟨.ofText "USD", .neutral⟩, rate := .hundred },
    { pair := ⟨.neutral, .ofText "USD"⟩, rate := .one },
    { pair := ⟨.ofText "USD", .neutral⟩, rate := .one },
    { pair := ⟨.ofText "PLN", .ofText "EUR"⟩, rate := .hundred }]⟩

theorem refused_or_spares_malformed :
    (∃ s, (Change.changeDefault 1).edit.run malformed = .error (.refused (.multipleDefaults 2)) s ∧
      s = malformed) ∧
    (∃ s, (Change.deleteRate ⟨.ofText "USD", .neutral⟩).edit.run malformed = .ok () s ∧
      s.rates.edges.length = 3 ∧ s.currencies = malformed.currencies ∧
      s.rates.besides ⟨.ofText "USD", .neutral⟩ =
        malformed.rates.besides ⟨.ofText "USD", .neutral⟩) ∧
    malformed.nextId.toInt = malformed.largestId.toInt + 1 := by
  have hrefused : (Change.changeDefault 1).edit.run malformed =
      .error (.refused (.multipleDefaults 2)) malformed := rfl
  have hdone : (Change.deleteRate ⟨.ofText "USD", .neutral⟩).edit.run malformed =
      .ok () (after (Change.deleteRate ⟨.ofText "USD", .neutral⟩).edit malformed) := rfl
  obtain ⟨hcurrencies, hedges⟩ := (refused_or_spares malformed _).2.1 _ hdone
  exact ⟨⟨_, hrefused, ((refused_or_spares malformed _).1 _ _ hrefused).1⟩,
    ⟨_, hdone, by decide, hcurrencies, hedges⟩,
    (refused_or_spares malformed (.changeDefault 1)).2.2 (by decide)⟩

end Registry

end Forex
