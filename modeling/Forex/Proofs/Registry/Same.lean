import Forex.Proofs.Decimal.Text
import Forex.Proofs.Registry.Step
import Mathlib.Data.List.Forall2

namespace Forex

/-- Edges of one pair whose numbers have the same values and the same places. -/
structure ExchangeRate.Same (d e : ExchangeRate) : Prop where
  pair : d.pair = e.pair
  rate : d.rate.SameValue e.rate ∧ d.rate.scale = e.rate.scale
  commission : d.commission.SameValue e.commission ∧ d.commission.scale = e.commission.scale

structure Registry.Same (r s : Registry) : Prop where
  currencies : r.currencies = s.currencies
  edges : List.Forall₂ ExchangeRate.Same r.rates.edges s.rates.edges

theorem Decimal.same_of_unsignZero_eq {a b : Decimal} (h : a.unsignZero = b.unsignZero) :
    a.SameValue b ∧ a.scale = b.scale := by
  refine ⟨?_, show a.unsignZero.scale = b.unsignZero.scale by rw [h]⟩
  rw [SameValue, ← units_unsignZero a, h, units_unsignZero]

theorem Decimal.unsignZero_unsignZero (a : Decimal) : a.unsignZero.unsignZero = a.unsignZero := by
  simp [unsignZero, isZero]

def ExchangeRate.unsignZeros (e : ExchangeRate) : ExchangeRate :=
  { e with rate := e.rate.unsignZero, commission := e.commission.unsignZero }

theorem ExchangeRate.same_of_unsignZeros_eq {d e : ExchangeRate}
    (h : d.unsignZeros = e.unsignZeros) : d.Same e where
  pair := congrArg (·.pair) h
  rate := Decimal.same_of_unsignZero_eq (congrArg (·.rate) h)
  commission := Decimal.same_of_unsignZero_eq (congrArg (·.commission) h)

theorem ExchangeRate.unsignZeros_unsignZeros (e : ExchangeRate) :
    e.unsignZeros.unsignZeros = e.unsignZeros := by
  simp only [unsignZeros, Decimal.unsignZero_unsignZero]

namespace RateTable

def unsignZeros (t : RateTable) : RateTable := ⟨t.edges.map (·.unsignZeros)⟩

theorem putEdge_unsignZeros (e : ExchangeRate) (es : List ExchangeRate) :
    putEdge e.unsignZeros (es.map (·.unsignZeros)) = (putEdge e es).map (·.unsignZeros) := by
  induction es with
  | nil => rfl
  | cons x xs ih =>
    simp only [List.map_cons, putEdge, ih]
    change (if x.pair = e.pair then _ else _) = _
    split <;> rfl

theorem takeEdge?_unsignZeros (p : Pair) (es : List ExchangeRate) :
    takeEdge? p (es.map (·.unsignZeros)) =
      (takeEdge? p es).map fun x ↦ (x.1.unsignZeros, x.2.map (·.unsignZeros)) := by
  induction es with
  | nil => rfl
  | cons x xs ih =>
    simp only [List.map_cons, takeEdge?, ih]
    change (if x.pair = p then _ else _) = _
    split
    case isTrue => rfl
    case isFalse => cases takeEdge? p xs <;> rfl

variable (t : RateTable)

theorem unsignZeros_upsert (e : ExchangeRate) :
    (t.upsert e).unsignZeros = t.unsignZeros.upsert e.unsignZeros :=
  congrArg RateTable.mk (putEdge_unsignZeros e t.edges).symm

theorem unsignZeros_remove? (p : Pair) :
    t.unsignZeros.remove? p = (t.remove? p).map fun x ↦ (x.1.unsignZeros, x.2.unsignZeros) := by
  simp only [remove?, unsignZeros, takeEdge?_unsignZeros, Option.map_map]
  rfl

theorem unsignZeros_erase (p : Pair) : (t.erase p).unsignZeros = t.unsignZeros.erase p := by
  rw [erase, erase, unsignZeros_remove?]
  cases t.remove? p <;> rfl

theorem unsignZeros_putBothWays (e : ExchangeRate) :
    (t.putBothWays e).unsignZeros =
      ((t.unsignZeros.upsert e.unsignZeros).erase e.pair.swap).upsert e.back.unsignZeros := by
  rw [putBothWays, unsignZeros_upsert, unsignZeros_erase, unsignZeros_upsert]

theorem unsignZeros_pin (code : Code) : (t.pin code).unsignZeros = t.unsignZeros.pin code := by
  rw [pin, unsignZeros_upsert, unsignZeros_upsert]
  rfl

variable {t} {u : RateTable}

theorem isSome_get?_of_unsignZeros_eq (h : t.unsignZeros = u.unsignZeros) (p : Pair) :
    (t.get? p).isSome = (u.get? p).isSome := by
  have hget (t : RateTable) : (t.unsignZeros.get? p).isSome = (t.get? p).isSome := by
    rw [← remove?_fst, ← remove?_fst, unsignZeros_remove?, Option.isSome_map, Option.isSome_map,
      Option.isSome_map]
  rw [← hget t, h, hget]

theorem remove?_of_unsignZeros_eq (h : t.unsignZeros = u.unsignZeros) {p : Pair}
    {e : ExchangeRate} {rest : RateTable} (ht : t.remove? p = some (e, rest)) :
    ∃ e' rest', u.remove? p = some (e', rest') ∧ rest.unsignZeros = rest'.unsignZeros := by
  have hu : u.unsignZeros.remove? p = some (e.unsignZeros, rest.unsignZeros) := by
    rw [← h, unsignZeros_remove?, ht]
    rfl
  rw [unsignZeros_remove?] at hu
  obtain ⟨⟨e', rest'⟩, hu, heq⟩ := Option.map_eq_some_iff.1 hu
  exact ⟨e', rest', hu, (congrArg (·.2) heq).symm⟩

end RateTable

namespace Registry

variable {r s : Registry}

def unsignZeros (r : Registry) : Registry := { r with rates := r.rates.unsignZeros }

theorem unsignZeros_unsignZeros (r : Registry) : r.unsignZeros.unsignZeros = r.unsignZeros := by
  simp [unsignZeros, RateTable.unsignZeros, ExchangeRate.unsignZeros_unsignZeros]

theorem same_of_unsignZeros_eq (h : r.unsignZeros = s.unsignZeros) : r.Same s where
  currencies := congrArg (·.currencies) h
  edges := by
    have hedges : r.rates.edges.map (·.unsignZeros) = s.rates.edges.map (·.unsignZeros) :=
      congrArg (·.rates.edges) h
    rw [← List.forall₂_eq_eq_eq, List.forall₂_map_left_iff, List.forall₂_map_right_iff] at hedges
    exact hedges.imp fun _ _ ↦ ExchangeRate.same_of_unsignZeros_eq

/-- Registries that differ at most in the signs of zeros make the same steps. -/
theorem Step.of_unsignZeros_eq {c : Change} {r' : Registry} (h : Step r c s)
    (hr : r.unsignZeros = r'.unsignZeros) :
    ∃ s', Step r' c s' ∧ s.unsignZeros = s'.unsignZeros := by
  obtain ⟨currencies, t⟩ := r
  obtain ⟨currencies', u⟩ := r'
  obtain rfl : currencies = currencies' := congrArg (·.currencies) hr
  have ht : t.unsignZeros = u.unsignZeros := congrArg (·.rates) hr
  have hrate (e : ExchangeRate) :
      (withRate ⟨currencies, t⟩ e).unsignZeros = (withRate ⟨currencies, u⟩ e).unsignZeros := by
    have hput : (t.putBothWays e).unsignZeros = (u.putBothWays e).unsignZeros := by
      rw [RateTable.unsignZeros_putBothWays, ht, RateTable.unsignZeros_putBothWays]
    exact congrArg (Registry.mk currencies) hput
  cases h with
  | createCurrency hc hcode htitle hdefault hfresh =>
    exact ⟨_, .createCurrency hc hcode htitle hdefault hfresh, congrArg (Registry.mk _) ht⟩
  | updateCurrency hc hcode htitle hdefault hfresh hid =>
    exact ⟨_, .updateCurrency hc hcode htitle hdefault hfresh hid, congrArg (Registry.mk _) ht⟩
  | @changeDefault id next hid hone hnext hother =>
    have hpin : (t.pin next.code).unsignZeros = (u.pin next.code).unsignZeros := by
      rw [RateTable.unsignZeros_pin, ht, RateTable.unsignZeros_pin]
    exact ⟨_, .changeDefault hid hone hnext hother, congrArg (Registry.mk _) hpin⟩
  | createRate hneutral he =>
    exact ⟨_, .createRate hneutral ⟨he.positive, he.source, he.target⟩, hrate _⟩
  | @updateRate e hedge he =>
    have hedge' : (u.get? e.pair).isSome := by
      rw [← RateTable.isSome_get?_of_unsignZeros_eq ht]
      exact hedge
    exact ⟨_, .updateRate hedge' ⟨he.positive, he.source, he.target⟩, hrate e⟩
  | @deleteRate p e rest hedge =>
    obtain ⟨e', rest', hedge', hrest⟩ := RateTable.remove?_of_unsignZeros_eq ht hedge
    have herase : (rest.erase p.swap).unsignZeros = (rest'.erase p.swap).unsignZeros := by
      rw [RateTable.unsignZeros_erase, hrest, RateTable.unsignZeros_erase]
    exact ⟨_, .deleteRate hedge', congrArg (Registry.mk _) herase⟩

end Registry

end Forex
