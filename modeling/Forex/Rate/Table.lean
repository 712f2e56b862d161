import Forex.Rate.Basic

namespace Forex

structure RateTable where
  edges : List ExchangeRate
deriving DecidableEq

namespace RateTable

def empty : RateTable := ⟨[]⟩

instance : Inhabited RateTable := ⟨empty⟩

def get? (t : RateTable) (p : Pair) : Option ExchangeRate := t.edges.find? (·.pair == p)

/-- Replaces the first edge of the same pair, or adds the edge at the end. -/
def putEdge (e : ExchangeRate) : List ExchangeRate → List ExchangeRate
  | [] => [e]
  | x :: xs => if x.pair = e.pair then e :: xs else x :: putEdge e xs

def upsert (t : RateTable) (e : ExchangeRate) : RateTable := ⟨putEdge e t.edges⟩

theorem find?_putEdge (e : ExchangeRate) (p : Pair) (es : List ExchangeRate) :
    (putEdge e es).find? (·.pair == p) =
      if e.pair = p then some e else es.find? (·.pair == p) := by
  induction es with
  | nil => by_cases h : e.pair = p <;> simp [putEdge, h]
  | cons x xs ih =>
    unfold putEdge
    split
    case isTrue hx => by_cases h : e.pair = p <;> simp [h, hx]
    case isFalse hx =>
      by_cases h : x.pair = p
      · have he : e.pair ≠ p := fun he ↦ hx (h.trans he.symm)
        simp [h, he]
      · simp [h, ih]

/-- A table answers with the edge that was put into it last; other pairs are not touched. -/
theorem get?_upsert (t : RateTable) (e : ExchangeRate) (p : Pair) :
    (t.upsert e).get? p = if e.pair = p then some e else t.get? p :=
  find?_putEdge e p t.edges

def takeEdge? (p : Pair) : List ExchangeRate → Option (ExchangeRate × List ExchangeRate)
  | [] => none
  | x :: xs =>
    if x.pair = p then some (x, xs) else (takeEdge? p xs).map fun (e, rest) ↦ (e, x :: rest)

theorem takeEdge?_fst (p : Pair) (es : List ExchangeRate) :
    (takeEdge? p es).map (·.1) = es.find? (·.pair == p) := by
  induction es with
  | nil => rfl
  | cons x xs ih => by_cases h : x.pair = p <;> simp [takeEdge?, h, ← ih, Function.comp_def]

theorem find?_takeEdge? {p q : Pair} (hq : q ≠ p) {es rest : List ExchangeRate} {e : ExchangeRate}
    (h : takeEdge? p es = some (e, rest)) : rest.find? (·.pair == q) = es.find? (·.pair == q) := by
  induction es generalizing e rest with
  | nil => simp [takeEdge?] at h
  | cons x xs ih =>
    unfold takeEdge? at h
    split at h
    case isTrue hx =>
      have hne : p ≠ q := fun he ↦ hq he.symm
      obtain ⟨-, rfl⟩ : x = e ∧ xs = rest := by simpa using h
      simp [hx, hne]
    case isFalse hx =>
      obtain ⟨⟨e', rest'⟩, h', hr⟩ := Option.map_eq_some_iff.1 h
      obtain ⟨-, rfl⟩ : e' = e ∧ x :: rest' = rest := by simpa using hr
      simp [List.find?_cons, ih h']

def remove? (t : RateTable) (p : Pair) : Option (ExchangeRate × RateTable) :=
  (takeEdge? p t.edges).map fun (e, rest) ↦ (e, ⟨rest⟩)

theorem remove?_fst (t : RateTable) (p : Pair) : (t.remove? p).map (·.1) = t.get? p := by
  rw [get?, ← takeEdge?_fst, remove?, Option.map_map]
  rfl

def erase (t : RateTable) (p : Pair) : RateTable := (t.remove? p).elim t (·.2)

theorem get?_erase_of_ne (t : RateTable) {p q : Pair} (hq : q ≠ p) :
    (t.erase p).get? q = t.get? q := by
  unfold erase remove?
  cases h : takeEdge? p t.edges with
  | none => rfl
  | some x => exact find?_takeEdge? hq h

/-- The currency that a table is based on: the other end of the first edge that touches the neutral
unit, has rate one and does not lead back to itself. -/
def detectDefault (t : RateTable) : Option Code :=
  (t.edges.find? fun e ↦
      decide (e.rate.SameValue .one) && e.pair.touchesNeutral && e.pair.source != e.pair.target).map
    fun e ↦ if e.pair.source.isNeutral then e.pair.target else e.pair.source

end RateTable

end Forex
