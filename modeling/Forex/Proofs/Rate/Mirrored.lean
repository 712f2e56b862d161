import Forex.Proofs.Rate.Table
import Forex.Proofs.Registry.Step

namespace Forex

namespace RateTable

/-- Each pair has one edge, with the neutral unit at one end, and the edge back has the same
commission. -/
structure Mirrored (t : RateTable) : Prop where
  nodup : t.pairs.Nodup
  neutral : ∀ p ∈ t.pairs, p.touchesNeutral
  back : ∀ p e, t.get? p = some e → ∃ e', t.get? p.swap = some e' ∧ e'.commission = e.commission

variable {t : RateTable}

theorem mirrored_empty : empty.Mirrored where
  nodup := List.nodup_nil
  neutral _ h := nomatch h
  back _ _ h := nomatch h

theorem get?_putBothWays (t : RateTable) (e : ExchangeRate) (q : Pair) :
    (t.putBothWays e).get? q =
      if q = e.pair.swap then some e.back else if q = e.pair then some e else t.get? q := by
  have hb : e.back.pair = e.pair.swap := rfl
  rw [putBothWays, get?_upsert, hb]
  by_cases hq : q = e.pair.swap
  · rw [if_pos hq.symm, if_pos hq]
  · rw [if_neg (Ne.symm hq), if_neg hq, get?_erase_of_ne _ hq, get?_upsert]
    simp only [eq_comm]

theorem get?_pin (t : RateTable) (code : Code) (q : Pair) :
    (t.pin code).get? q =
      if q = ⟨.neutral, code⟩ ∨ q = ⟨code, .neutral⟩ then some { pair := q, rate := .one }
      else t.get? q := by
  rw [pin, get?_upsert, get?_upsert]
  by_cases h₁ : q = ⟨.neutral, code⟩
  · simp [h₁]
  · by_cases h₂ : q = ⟨code, .neutral⟩
    · subst h₂
      simp [Ne.symm h₁]
    · simp [h₁, h₂, Ne.symm h₁, Ne.symm h₂]

theorem mem_pairs_putBothWays (t : RateTable) (e : ExchangeRate) {q : Pair}
    (h : q ∈ (t.putBothWays e).pairs) : q = e.pair.swap ∨ q = e.pair ∨ q ∈ t.pairs := by
  rcases (mem_pairs_upsert _ _ _).1 h with rfl | h
  · exact .inl rfl
  · rw [pairs_erase] at h
    exact .inr ((mem_pairs_upsert _ _ _).1 (List.mem_of_mem_erase h))

theorem Mirrored.putBothWays (h : t.Mirrored) {e : ExchangeRate} (he : e.pair.touchesNeutral) :
    (t.putBothWays e).Mirrored where
  nodup := nodup_pairs_upsert _ _ (nodup_pairs_erase _ _ (nodup_pairs_upsert _ _ h.nodup))
  neutral p hp := by
    rcases mem_pairs_putBothWays t e hp with rfl | rfl | hp
    · rw [Pair.touchesNeutral_swap]
      exact he
    · exact he
    · exact h.neutral p hp
  back p d hd := by
    simp only [get?_putBothWays] at hd ⊢
    -- The pair is one of the two that were written, or its way back was not written either.
    by_cases hs : p = e.pair.swap
    · rw [if_pos hs] at hd
      obtain rfl := Option.some.inj hd
      subst hs
      by_cases hl : e.pair = e.pair.swap
      · exact ⟨e.back, if_pos hl, rfl⟩
      · exact ⟨e, by rw [Pair.swap_swap, if_neg hl, if_pos rfl], rfl⟩
    · by_cases hp : p = e.pair
      · rw [if_neg hs, if_pos hp] at hd
        obtain rfl := Option.some.inj hd
        exact ⟨e.back, if_pos (congrArg Pair.swap hp), rfl⟩
      · rw [if_neg hs, if_neg hp] at hd
        obtain ⟨e', he', hc⟩ := h.back p d hd
        have hs' : p.swap ≠ e.pair.swap := fun hq ↦ hp (congrArg Pair.swap hq)
        have hp' : p.swap ≠ e.pair := fun hq ↦ hs (congrArg Pair.swap hq)
        exact ⟨e', by rw [if_neg hs', if_neg hp', he'], hc⟩

theorem Mirrored.pin (h : t.Mirrored) (code : Code) : (t.pin code).Mirrored where
  nodup := nodup_pairs_upsert _ _ (nodup_pairs_upsert _ _ h.nodup)
  neutral p hp := by
    have hn : Code.neutral.isNeutral := rfl
    rcases (mem_pairs_upsert _ _ _).1 hp with rfl | hp
    · simp [Pair.touchesNeutral, hn]
    · rcases (mem_pairs_upsert _ _ _).1 hp with rfl | hp
      · simp [Pair.touchesNeutral, hn]
      · exact h.neutral p hp
  back p d hd := by
    rw [get?_pin] at hd
    rw [get?_pin]
    have hswap : (p.swap = ⟨.neutral, code⟩ ∨ p.swap = ⟨code, .neutral⟩) ↔
        (p = ⟨.neutral, code⟩ ∨ p = ⟨code, .neutral⟩) := by
      cases p
      simp only [Pair.swap, Pair.mk.injEq]
      tauto
    by_cases hp : p = ⟨.neutral, code⟩ ∨ p = ⟨code, .neutral⟩
    · rw [if_pos hp] at hd
      obtain rfl := Option.some.inj hd
      exact ⟨_, if_pos (hswap.2 hp), rfl⟩
    · rw [if_neg hp] at hd
      obtain ⟨e', he', hc⟩ := h.back p d hd
      exact ⟨e', by rw [if_neg (mt hswap.1 hp), he'], hc⟩

theorem Mirrored.erase_both (h : t.Mirrored) (p : Pair) :
    ((t.erase p).erase p.swap).Mirrored where
  nodup := nodup_pairs_erase _ _ (nodup_pairs_erase _ _ h.nodup)
  neutral q hq := by
    rw [pairs_erase, pairs_erase] at hq
    exact h.neutral q (List.mem_of_mem_erase (List.mem_of_mem_erase hq))
  back q d hd := by
    simp only [get?_erase (nodup_pairs_erase t p h.nodup), get?_erase h.nodup] at hd ⊢
    by_cases hs : q = p.swap
    · rw [if_pos hs] at hd
      cases hd
    · by_cases hp : q = p
      · rw [if_neg hs, if_pos hp] at hd
        cases hd
      · rw [if_neg hs, if_neg hp] at hd
        obtain ⟨e', he', hc⟩ := h.back q d hd
        have hs' : q.swap ≠ p.swap := fun hq ↦ hp (congrArg Pair.swap hq)
        have hp' : q.swap ≠ p := fun hq ↦ hs (congrArg Pair.swap hq)
        exact ⟨e', by rw [if_neg hs', if_neg hp', he'], hc⟩

end RateTable

namespace Registry

variable {r s : Registry}

theorem Step.mirrored {c : Change} (h : r.rates.Mirrored) (hs : Step r c s) : s.rates.Mirrored := by
  cases hs with
  | createCurrency => exact h
  | updateCurrency => exact h
  | @changeDefault id next => exact h.pin next.code
  | createRate hneutral => exact h.putBothWays hneutral
  | @updateRate e hedge =>
    -- The pair is in the table already, where all pairs have the neutral unit at one end.
    exact h.putBothWays (h.neutral e.pair ((r.rates.get?_isSome_iff e.pair).1 hedge))
  | @deleteRate p e rest hedge =>
    have hrest := RateTable.erase_of_remove? _ _ _ hedge
    subst hrest
    exact h.erase_both p

theorem Reachable.mirrored (h : Reachable r) : r.rates.Mirrored :=
  h.induct RateTable.mirrored_empty fun _ _ _ h hs ↦ hs.mirrored h

/-- In a registry that can be reached no pair has two edges, every edge has the neutral unit at one
end, and every edge comes with the edge back, which has the same commission. -/
theorem edges_mirrored (h : Reachable r) :
    (r.rates.edges.map (·.pair)).Nodup ∧
    (∀ e ∈ r.rates.edges, e.pair.source = .neutral ∨ e.pair.target = .neutral) ∧
    ∀ e ∈ r.rates.edges, ∃ e' ∈ r.rates.edges,
      e'.pair = e.pair.swap ∧ e'.commission = e.commission := by
  have hm := h.mirrored
  refine ⟨hm.nodup, ?_, ?_⟩
  · intro e he
    have hn := hm.neutral e.pair (List.mem_map_of_mem he)
    simpa only [Pair.touchesNeutral, Bool.or_eq_true, Code.isNeutral_iff] using hn
  · intro e he
    obtain ⟨e', he', hc⟩ := hm.back e.pair e (RateTable.get?_of_mem hm.nodup he)
    exact ⟨e', RateTable.mem_of_get? he', RateTable.pair_of_get? he', hc⟩

def sampleRun : List Change := [
  .createCurrency { Currency.neutral with code := .ofText "EUR", title := "Euro" },
  .createRate { pair := ⟨.neutral, .neutral⟩, rate := .hundred },
  .deleteRate ⟨.ofText "EUR", .neutral⟩,
  .changeDefault 1,
  .updateRate { pair := ⟨.ofText "EUR", .neutral⟩, rate := .hundred, commission := .one }]

theorem edges_mirrored_sampleRun :
    Reachable (afterAll sampleRun initial) ∧
    (afterAll sampleRun initial).rates.edges.map (·.pair) =
      [⟨.neutral, .neutral⟩, ⟨.ofText "EUR", .neutral⟩, ⟨.neutral, .ofText "EUR"⟩] ∧
    ∀ e ∈ (afterAll sampleRun initial).rates.edges,
      ∃ e' ∈ (afterAll sampleRun initial).rates.edges,
        e'.pair = e.pair.swap ∧ e'.commission = e.commission :=
  ⟨⟨sampleRun, rfl⟩, by decide +kernel, (edges_mirrored ⟨sampleRun, rfl⟩).2.2⟩

end Registry

end Forex
