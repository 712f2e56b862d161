import Forex.Proofs.Entries
import Forex.Rate.Table

namespace Forex.RateTable

def pairs (t : RateTable) : List Pair := t.edges.map (·.pair)

variable (t : RateTable) (e : ExchangeRate) (p q : Pair)

theorem map_pair_putEdge (es : List ExchangeRate) :
    (putEdge e es).map (·.pair) =
      if e.pair ∈ es.map (·.pair) then es.map (·.pair) else es.map (·.pair) ++ [e.pair] := by
  induction es with
  | nil => rfl
  | cons x xs ih =>
    unfold putEdge
    by_cases hx : x.pair = e.pair
    · simp [hx]
    · rw [if_neg hx, List.map_cons, ih]
      simp only [List.map_cons, List.mem_cons, Ne.symm hx, false_or]
      split <;> rfl

theorem pairs_upsert :
    (t.upsert e).pairs = if e.pair ∈ t.pairs then t.pairs else t.pairs ++ [e.pair] :=
  map_pair_putEdge e t.edges

theorem mem_pairs_upsert : q ∈ (t.upsert e).pairs ↔ q = e.pair ∨ q ∈ t.pairs := by
  rw [pairs_upsert]
  split
  case isTrue h => exact ⟨.inr, fun hq ↦ hq.elim (fun hq ↦ hq ▸ h) id⟩
  case isFalse => rw [List.mem_append, List.mem_singleton, or_comm]

theorem nodup_pairs_upsert (h : t.pairs.Nodup) : (t.upsert e).pairs.Nodup := by
  rw [pairs_upsert]
  split
  case isTrue => exact h
  case isFalse hp => exact List.Nodup.append h (List.nodup_singleton _) (by simpa using hp)

theorem map_pair_takeEdge? (es : List ExchangeRate) :
    ((takeEdge? p es).elim es (·.2)).map (·.pair) = (es.map (·.pair)).erase p := by
  induction es with
  | nil => rfl
  | cons x xs ih =>
    unfold takeEdge?
    by_cases hx : x.pair = p
    · simp [hx]
    · rw [if_neg hx, List.map_cons, List.erase_cons_tail (by simpa using hx), ← ih]
      cases takeEdge? p xs <;> rfl

theorem edges_erase : (t.erase p).edges = (takeEdge? p t.edges).elim t.edges (·.2) := by
  unfold erase remove?
  cases takeEdge? p t.edges <;> rfl

theorem pairs_erase : (t.erase p).pairs = t.pairs.erase p := by
  unfold pairs
  rw [edges_erase, map_pair_takeEdge?]

theorem nodup_pairs_erase (h : t.pairs.Nodup) : (t.erase p).pairs.Nodup := by
  rw [pairs_erase]
  exact h.erase p

theorem erase_of_remove? {rest : RateTable} (h : t.remove? p = some (e, rest)) :
    t.erase p = rest := by
  rw [erase, h]
  rfl

theorem get?_isSome_iff : (t.get? p).isSome ↔ p ∈ t.pairs := by
  simp only [get?, List.find?_isSome, beq_iff_eq, pairs, List.mem_map]

variable {t e p q}

theorem mem_putEdge_self (es : List ExchangeRate) : e ∈ putEdge e es := by
  induction es with
  | nil => exact List.mem_singleton_self e
  | cons x xs ih =>
    unfold putEdge
    split
    case isTrue => exact List.mem_cons_self
    case isFalse => exact List.mem_cons_of_mem x ih

theorem mem_upsert_self (t : RateTable) (e : ExchangeRate) : e ∈ (t.upsert e).edges :=
  mem_putEdge_self t.edges

theorem eq_or_mem_of_mem_putEdge {d : ExchangeRate} {es : List ExchangeRate}
    (h : d ∈ putEdge e es) : d = e ∨ d ∈ es := by
  induction es with
  | nil => exact .inl (List.mem_singleton.1 h)
  | cons x xs ih =>
    unfold putEdge at h
    split at h
    case isTrue => exact (List.mem_cons.1 h).imp id (List.mem_cons_of_mem x)
    case isFalse =>
      rcases List.mem_cons.1 h with rfl | h
      · exact .inr List.mem_cons_self
      · exact (ih h).imp id (List.mem_cons_of_mem x)

theorem eq_or_mem_of_mem_upsert {d : ExchangeRate} (h : d ∈ (t.upsert e).edges) :
    d = e ∨ d ∈ t.edges := eq_or_mem_of_mem_putEdge h

theorem takeEdge?_subset {es rest : List ExchangeRate} (h : takeEdge? p es = some (e, rest)) :
    rest ⊆ es := by
  induction es generalizing e rest with
  | nil => simp [takeEdge?] at h
  | cons x xs ih =>
    unfold takeEdge? at h
    split at h
    case isTrue =>
      obtain ⟨-, rfl⟩ : x = e ∧ xs = rest := by simpa using h
      exact List.subset_cons_self x xs
    case isFalse =>
      obtain ⟨⟨e', rest'⟩, h', hr⟩ := Option.map_eq_some_iff.1 h
      obtain ⟨-, rfl⟩ : e' = e ∧ x :: rest' = rest := by simpa using hr
      exact List.cons_subset_cons x (ih h')

theorem edges_erase_subset (t : RateTable) (p : Pair) : (t.erase p).edges ⊆ t.edges := by
  rw [edges_erase]
  cases h : takeEdge? p t.edges with
  | none => exact List.Subset.refl t.edges
  | some x => exact takeEdge?_subset h

theorem pair_of_get? (h : t.get? p = some e) : e.pair = p := by
  simpa using List.find?_some h

theorem mem_of_get? (h : t.get? p = some e) : e ∈ t.edges := List.mem_of_find?_eq_some h

theorem get?_of_mem (h : t.pairs.Nodup) (he : e ∈ t.edges) : t.get? e.pair = some e :=
  (find?_eq_some_iff_of_nodup h).2 ⟨he, rfl⟩

theorem get?_erase (h : t.pairs.Nodup) : (t.erase p).get? q = if q = p then none else t.get? q := by
  split
  case isTrue hq =>
    subst hq
    rw [← Option.not_isSome_iff_eq_none, get?_isSome_iff, pairs_erase]
    exact h.not_mem_erase
  case isFalse hq => exact t.get?_erase_of_ne hq

end Forex.RateTable
