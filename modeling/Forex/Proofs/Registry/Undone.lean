import Forex.Command.Run
import Forex.Proofs.Rate.Edited
import Forex.Proofs.Registry.Frame

namespace Forex

namespace RateTable

variable {t u : RateTable} {e : ExchangeRate} {p : Pair}

theorem eq_of_edges_eq (h : t.edges = u.edges) : t = u := by
  cases t
  cases u
  exact congrArg RateTable.mk h

theorem takeEdge?_eq_filter {es : List ExchangeRate} (h : (es.map (·.pair)).Nodup) :
    (takeEdge? p es).elim es (·.2) = es.filter (·.pair != p) := by
  induction es with
  | nil => rfl
  | cons x xs ih =>
    rw [List.map_cons, List.nodup_cons] at h
    unfold takeEdge?
    by_cases hx : x.pair = p
    · have hrest : xs.filter (·.pair != p) = xs := by
        rw [List.filter_eq_self]
        intro d hd
        rw [bne_iff_ne]
        rintro rfl
        exact h.1 (hx ▸ List.mem_map_of_mem hd)
      simp [hx, hrest]
    · rw [if_neg hx, List.filter_cons_of_pos (by simpa using hx), ← ih h.2]
      cases takeEdge? p xs <;> rfl

theorem edges_erase_eq_filter (h : t.pairs.Nodup) (p : Pair) :
    (t.erase p).edges = t.edges.filter (·.pair != p) := by
  rw [edges_erase]
  exact takeEdge?_eq_filter h

theorem putEdge_of_find? {es : List ExchangeRate} (h : es.find? (·.pair == e.pair) = some e) :
    putEdge e es = es := by
  induction es with
  | nil => cases h
  | cons x xs ih =>
    unfold putEdge
    by_cases hx : x.pair = e.pair
    · have hxe : x = e := by simpa [hx] using h
      rw [if_pos hx, hxe]
    · rw [if_neg hx, ih (by simpa [hx] using h)]

theorem upsert_of_get? (h : t.get? e.pair = some e) : t.upsert e = t :=
  congrArg RateTable.mk (putEdge_of_find? h)

theorem nodup_pairs_putBothWays (h : t.pairs.Nodup) (e : ExchangeRate) :
    (t.putBothWays e).pairs.Nodup :=
  nodup_pairs_upsert _ _ (nodup_pairs_erase _ _ (nodup_pairs_upsert _ _ h))

theorem edges_putBothWays (h : t.pairs.Nodup) (e : ExchangeRate) :
    (t.putBothWays e).edges = ((t.upsert e).erase e.pair.swap).edges ++ [e.back] := by
  refine putEdge_of_notMem ?_
  have hfresh := (nodup_pairs_upsert t e h).not_mem_erase (a := e.pair.swap)
  rwa [← pairs_erase] at hfresh

theorem putBothWays_putBothWays (h : t.pairs.Nodup) (e : ExchangeRate) :
    (t.putBothWays e).putBothWays e = t.putBothWays e := by
  have hnodup := nodup_pairs_putBothWays h e
  have hback : (t.putBothWays e).edges.filter (·.pair != e.pair.swap) =
      ((t.upsert e).erase e.pair.swap).edges := by
    rw [edges_putBothWays h, List.filter_append, edges_erase_eq_filter (nodup_pairs_upsert t e h)]
    simp [ExchangeRate.back]
  have hagain : ((t.putBothWays e).upsert e).edges.filter (·.pair != e.pair.swap) =
      (t.putBothWays e).edges.filter (·.pair != e.pair.swap) := by
    by_cases hloop : e.pair = e.pair.swap
    · exact filter_putEdge (q := (· != e.pair.swap)) (by simpa using hloop) _
    · have hget : (t.putBothWays e).get? e.pair = some e := by
        rw [get?_putBothWays, if_neg hloop, if_pos rfl]
      rw [upsert_of_get? hget]
  have hrest : ((t.putBothWays e).upsert e).erase e.pair.swap = (t.upsert e).erase e.pair.swap := by
    refine eq_of_edges_eq ?_
    rw [edges_erase_eq_filter (nodup_pairs_upsert _ e hnodup), hagain, hback]
  rw [putBothWays, hrest]
  rfl

theorem edges_erase_both (h : t.pairs.Nodup) (p : Pair) :
    ((t.erase p).erase p.swap).edges = t.besides p := by
  rw [edges_erase_eq_filter (nodup_pairs_erase t p h), edges_erase_eq_filter h, List.filter_filter,
    besides]
  refine List.filter_congr fun e _ ↦ ?_
  rw [Pair.sameEnds, Bool.not_or, Bool.and_comm]
  rfl

theorem besides_eq_edges (hp : p ∉ t.pairs) (hswap : p.swap ∉ t.pairs) :
    t.besides p = t.edges := by
  refine List.filter_eq_self.2 fun e he ↦ ?_
  have hmem : e.pair ∈ t.pairs := List.mem_map_of_mem he
  have hne : e.pair ≠ p ∧ e.pair ≠ p.swap :=
    ⟨fun h ↦ hp (h ▸ hmem), fun h ↦ hswap (h ▸ hmem)⟩
  simp [Pair.sameEnds, hne]

theorem erase_both_putBothWays (h : t.pairs.Nodup) (hp : e.pair ∉ t.pairs)
    (hswap : e.pair.swap ∉ t.pairs) (hq : p = e.pair ∨ p = e.pair.swap) :
    ((t.putBothWays e).erase p).erase p.swap = t := by
  have hbesides : (t.putBothWays e).besides p = (t.putBothWays e).besides e.pair := by
    rcases hq with rfl | rfl
    · rfl
    · refine List.filter_congr fun d _ ↦ ?_
      rw [Pair.sameEnds, Pair.swap_swap, Bool.or_comm]
      rfl
  refine eq_of_edges_eq ?_
  rw [edges_erase_both (nodup_pairs_putBothWays h e), hbesides, besides_putBothWays,
    besides_eq_edges hp hswap]

end RateTable

namespace Registry

variable {r s : Registry} {c d : Change} {e : ExchangeRate} {p : Pair}

theorem get?_withRate_isSome (r : Registry) (hp : p = e.pair ∨ p = e.pair.swap) :
    ((r.withRate e).rates.get? p).isSome := by
  rw [withRate, RateTable.get?_putBothWays]
  split_ifs with hback hforth
  · rfl
  · rfl
  · exact absurd hp (not_or.2 ⟨hforth, hback⟩)

theorem withRate_withRate (h : r.rates.pairs.Nodup) (e : ExchangeRate) :
    (r.withRate e).withRate e = r.withRate e :=
  congrArg (Registry.mk r.currencies) (RateTable.putBothWays_putBothWays h e)

theorem Step.touchesNeutral (hs : Step r c s) (hr : r.rates.Mirrored) (he : c.rate? = some e) :
    e.pair.touchesNeutral := by
  cases hs with
  | createRate hneutral =>
    obtain rfl := Option.some.inj he
    exact hneutral
  | updateRate hedge =>
    obtain rfl := Option.some.inj he
    exact hr.neutral _ ((r.rates.get?_isSome_iff _).1 hedge)
  | createCurrency | updateCurrency | changeDefault | deleteRate => cases he

theorem Step.again (hs : Step r c s) (hr : r.rates.Mirrored) (hc : c.rate? = some e)
    (hd : d.rate? = some e) : Step s d s := by
  have haccepts := hs.accepts hc
  have hneutral := hs.touchesNeutral hr hc
  obtain rfl := hs.eq_withRate hc
  have hagain : (r.withRate e).Accepts e := ⟨haccepts.positive, haccepts.source, haccepts.target⟩
  have hmade : Step (r.withRate e) d ((r.withRate e).withRate e) := by
    cases d with
    | createRate =>
      obtain rfl := Option.some.inj hd
      exact .createRate hneutral hagain
    | updateRate =>
      obtain rfl := Option.some.inj hd
      exact .updateRate (r.get?_withRate_isSome (.inl rfl)) hagain
    | createCurrency | updateCurrency | changeDefault | deleteRate => cases hd
  rwa [withRate_withRate hr.nodup] at hmade

theorem exists_run_setRate (r : Registry) (e : ExchangeRate) :
    ∃ c : Change, c.rate? = some e ∧ (setRate e).run r = c.edit.run r := by
  by_cases hedge : (r.rates.get? e.pair).isSome
  · refine ⟨.updateRate e, rfl, ?_⟩
    simp only [setRate, EStateM.run_bind, EStateM.run_get, if_pos hedge, Change.edit]
  · refine ⟨.createRate e, rfl, ?_⟩
    simp only [setRate, EStateM.run_bind, EStateM.run_get, if_neg hedge, Change.edit]

theorem exists_run_deleteRate (hnodup : r.rates.pairs.Nodup) (hnew : r.rates.get? e.pair = none)
    (hback : r.rates.get? e.pair.swap = none) (hp : p = e.pair ∨ p = e.pair.swap) :
    ∃ d, (r.withRate e).rates.get? p = some d ∧ (deleteRate p).run (r.withRate e) = .ok d r := by
  have hmem {q : Pair} (hq : r.rates.get? q = none) : q ∉ r.rates.pairs := by
    rw [← RateTable.get?_isSome_iff, hq]
    exact Bool.false_ne_true
  obtain ⟨d, hd⟩ := Option.isSome_iff_exists.1 (r.get?_withRate_isSome hp)
  refine ⟨d, hd, ?_⟩
  rw [← RateTable.remove?_fst] at hd
  obtain ⟨⟨e', rest⟩, hremove, rfl⟩ := Option.map_eq_some_iff.1 hd
  have hrest := RateTable.erase_of_remove? _ _ _ hremove
  subst hrest
  rw [run_deleteRate, hremove]
  have hundone := RateTable.erase_both_putBothWays hnodup (hmem hnew) (hmem hback) hp
  exact congrArg (fun t ↦ EStateM.Result.ok e' (Registry.mk r.currencies t)) hundone

/-- In a registry that can be reached, a rate that was set can be set again by a change of either
kind, and nothing happens. A new rate, of a pair that had an edge in neither direction, is undone by
deleting it in either direction. -/
theorem set_again_and_undone (h : Reachable r) :
    (∀ (c d : Change) (e : ExchangeRate) (s : Registry), c.rate? = some e → d.rate? = some e →
      c.edit.run r = .ok () s → d.edit.run s = .ok () s) ∧
    (∀ (e : ExchangeRate) (s : Registry), (setRate e).run r = .ok () s →
      (setRate e).run s = .ok () s) ∧
    ∀ (e : ExchangeRate) (s : Registry), r.rates.get? e.pair = none →
      r.rates.get? e.pair.swap = none → (createRate e).run r = .ok () s →
      ∀ p, p = e.pair ∨ p = e.pair.swap →
        ∃ d, s.rates.get? p = some d ∧ (deleteRate p).run s = .ok d r := by
  have hagain {c d : Change} {e : ExchangeRate} {s : Registry} (hc : c.rate? = some e)
      (hd : d.rate? = some e) (hrun : c.edit.run r = .ok () s) : d.edit.run s = .ok () s :=
    ((step_of_run_eq_ok hrun).again h.mirrored hc hd).run_eq_ok
  refine ⟨fun c d e s ↦ hagain, ?set, ?undone⟩
  case set =>
    intro e s hrun
    obtain ⟨c, hc, hfirst⟩ := exists_run_setRate r e
    obtain ⟨d, hd, hsecond⟩ := exists_run_setRate s e
    rw [hsecond]
    exact hagain hc hd (hfirst ▸ hrun)
  case undone =>
    intro e s hnew hback hrun p hp
    have hs : Step r (.createRate e) s := step_of_run_eq_ok (c := .createRate e) hrun
    rw [hs.eq_withRate rfl]
    exact exists_run_deleteRate h.mirrored.nodup hnew hback hp

def unpricedEuro : Registry :=
  afterAll [.createCurrency { Currency.neutral with code := .ofText "EUR", title := "Euro" }] initial

theorem set_again_and_undone_unpricedEuro :
    (Change.updateRate selfPriced).edit.run (unpricedEuro.withRate selfPriced) =
      .ok () (unpricedEuro.withRate selfPriced) ∧
    (∃ d, (deleteRate selfPriced.pair).run (unpricedEuro.withRate selfPriced) =
      .ok d unpricedEuro) ∧
    ∃ d, (deleteRate (pricedEuro .hundred).pair.swap).run
      (unpricedEuro.withRate (pricedEuro .hundred)) = .ok d unpricedEuro := by
  have hself : (Change.createRate selfPriced).edit.run unpricedEuro =
      .ok () (unpricedEuro.withRate selfPriced) :=
    run_eq_ok_iff.2 (.createRate (by decide) ⟨by decide, by decide, by decide⟩)
  have heuro : (Change.createRate (pricedEuro .hundred)).edit.run unpricedEuro =
      .ok () (unpricedEuro.withRate (pricedEuro .hundred)) :=
    run_eq_ok_iff.2 (.createRate (by decide) ⟨by decide, by decide, by decide⟩)
  obtain ⟨hagain, -, hundone⟩ := set_again_and_undone (r := unpricedEuro) ⟨_, rfl⟩
  obtain ⟨d, -, hdelete⟩ := hundone selfPriced _ (by decide) (by decide) hself _ (.inl rfl)
  obtain ⟨d', -, hdelete'⟩ :=
    hundone (pricedEuro .hundred) _ (by decide) (by decide) heuro _ (.inr rfl)
  exact ⟨hagain _ _ _ _ rfl rfl hself, ⟨d, hdelete⟩, ⟨d', hdelete'⟩⟩

end Registry

end Forex
