import Forex.Proofs.Rate.Detect
import Forex.Proofs.Registry.Default
import Mathlib.Data.List.Count

namespace Forex

def Currency.InPlace (c : Currency) : Prop :=
  (c.isNeutral ↔ c.id = Currency.neutralId) ∧ (c.isNeutral → c.isDefault = false)

namespace Registry

variable {r s : Registry}

/-- There is one neutral unit, it is not the default, and no converter has it as its base. -/
structure NeutralProtected (r : Registry) : Prop where
  one : r.currencies.countP (·.isNeutral) = 1
  notDefault : ∀ c ∈ r.currencies, c.isNeutral → c.isDefault = false
  base : ∀ c, r.converter = .ok c → c.base ≠ .neutral

structure NeutralInPlace (r : Registry) : Prop where
  count_id : r.ids.count Currency.neutralId = 1
  inPlace : ∀ c ∈ r.currencies, c.InPlace

theorem base_ne_neutral (h : ∀ c ∈ r.currencies, c.isNeutral → c.isDefault = false) {c : Converter}
    (hc : r.converter = .ok c) : c.base ≠ .neutral := by
  have hbase : ((r.defaultCurrency?.map (·.code)) <|> r.rates.detectDefault) = some c.base := by
    unfold converter at hc
    split at hc
    case h_1 base hbase =>
      obtain rfl := Except.ok.inj hc
      exact hbase
    case h_2 => cases hc
  intro hneutral
  rw [hneutral] at hbase
  cases hdefault : r.defaultCurrency? with
  | none =>
    rw [hdefault] at hbase
    exact RateTable.detectDefault_ne_neutral _ hbase
  | some k =>
    rw [hdefault] at hbase
    have hcode : k.isNeutral := Code.isNeutral_iff.2 (Option.some.inj hbase)
    have hfalse := h k (List.mem_of_find?_eq_some hdefault) hcode
    have htrue : k.isDefault = true := List.find?_some hdefault
    rw [hfalse] at htrue
    cases htrue

theorem NeutralInPlace.neutralProtected (h : r.NeutralInPlace) : r.NeutralProtected where
  one := by
    have hcongr : r.currencies.countP (·.isNeutral) =
        r.currencies.countP fun c ↦ c.id == Currency.neutralId :=
      List.countP_congr fun c hc ↦ by simpa using (h.inPlace c hc).1
    rw [hcongr, ← h.count_id, ids, List.count, List.countP_map]
    rfl
  notDefault c hc := (h.inPlace c hc).2
  base _ hc := base_ne_neutral (fun c hc ↦ (h.inPlace c hc).2) hc

theorem neutralInPlace_initial : initial.NeutralInPlace where
  count_id := by decide
  inPlace c hc := by
    rw [List.mem_singleton.1 hc]
    exact ⟨by decide, by decide⟩

theorem NeutralInPlace.exists_neutral (h : r.NeutralInPlace) :
    ∃ c ∈ r.currencies, c.isNeutral ∧ c.id = Currency.neutralId := by
  have hmem : Currency.neutralId ∈ r.ids := by
    have hcount := h.count_id
    exact List.count_pos_iff.1 (by omega)
  obtain ⟨c, hc, hid⟩ := List.mem_map.1 hmem
  exact ⟨c, hc, (h.inPlace c hc).1.2 hid, hid⟩

theorem nextId_ne_neutralId (h : Currency.neutralId ∈ r.ids) : r.nextId ≠ Currency.neutralId := by
  unfold nextId
  cases hmax : (r.currencies.map (·.id)).max? with
  | none =>
    rw [ids, List.max?_eq_none_iff.1 hmax] at h
    cases h
  | some m =>
    have hle : Currency.neutralId ≤ m := (List.max?_eq_some_iff.1 hmax).2 _ h
    intro heq
    obtain rfl : m = -1 := by
      have hadd : m + 1 = 0 := heq
      grind
    exact absurd hle (by decide)

theorem id_complete_ne_neutralId (h : Currency.neutralId ∈ r.ids) (draft : Currency) :
    (r.complete draft).id ≠ Currency.neutralId := by
  unfold complete
  dsimp only
  split
  case isTrue => exact nextId_ne_neutralId h
  case isFalse hid => exact hid

theorem Step.count_neutralId {c : Change} (h : r.ids.count Currency.neutralId = 1)
    (hs : Step r c s) : s.ids.count Currency.neutralId = 1 := by
  rw [hs.ids_eq, List.count_append, h]
  cases c with
  | createCurrency draft =>
    have hmem : Currency.neutralId ∈ r.ids := List.count_pos_iff.1 (by omega)
    rw [List.count_eq_zero.2]
    exact fun hid ↦ id_complete_ne_neutralId hmem draft (List.mem_singleton.1 hid).symm
  | updateCurrency | changeDefault | createRate | updateRate | deleteRate => rfl

/-- An update under the neutral id keeps the code and does not mark the currency as the default. -/
def Change.SparesNeutral : Change → Prop
  | .updateCurrency draft =>
    draft.id = Currency.neutralId → draft.code = .neutral ∧ draft.isDefault = false
  | _ => True

theorem NeutralInPlace.step {c : Change} (h : r.NeutralInPlace) (hs : Step r c s)
    (hspares : c.SparesNeutral) : s.NeutralInPlace where
  count_id := hs.count_neutralId h.count_id
  inPlace := by
    obtain ⟨n, hn, hneutral, hid⟩ := h.exists_neutral
    have hcode := Code.isNeutral_iff.1 hneutral
    cases hs with
    | @createCurrency draft c hc _ _ _ hfresh =>
      intro k hk
      rcases List.mem_append.1 hk with hk | hk
      · exact h.inPlace k hk
      · -- The code of the neutral unit and its id are taken.
        obtain rfl := List.mem_singleton.1 hk
        have hother : ¬k.isNeutral := fun hk ↦
          hfresh n hn (hcode.trans (Code.isNeutral_iff.1 hk).symm)
        have hmem : Currency.neutralId ∈ r.ids := List.mem_map.2 ⟨n, hn, hid⟩
        have hne : k.id ≠ Currency.neutralId := by
          rw [hc]
          exact id_complete_ne_neutralId hmem draft
        exact ⟨⟨fun hk ↦ absurd hk hother, fun hk ↦ absurd hk hne⟩, fun hk ↦ absurd hk hother⟩
    | @updateCurrency draft c hc _ _ _ hfresh =>
      intro k hk
      rcases mem_replaceCurrency hk with rfl | hk
      · subst hc
        -- No other currency can get the code of the neutral unit while that holds it.
        have hsame (hk : draft.trimmed.isNeutral) : draft.trimmed.id = Currency.neutralId :=
          (hfresh n hn (hcode.trans (Code.isNeutral_iff.1 hk).symm)).symm.trans hid
        exact ⟨⟨hsame, fun hk ↦ Code.isNeutral_iff.2 (hspares hk).1⟩,
          fun hk ↦ (hspares (hsame hk)).2⟩
      · exact h.inPlace k hk
    | @changeDefault id next hne =>
      intro k hk
      obtain ⟨k, hr, rfl⟩ := List.mem_map.1 hk
      refine ⟨(h.inPlace k hr).1, fun hneutral ↦ ?_⟩
      have hk₀ : k.id = Currency.neutralId := (h.inPlace k hr).1.1 hneutral
      simp only [hk₀, beq_eq_false_iff_ne]
      exact hne.symm
    | createRate | updateRate | deleteRate => exact h.inPlace

/-- Only an update can make the neutral unit vanish or the default. -/
theorem NeutralInPlace.sparesNeutral {c : Change} (h : r.NeutralInPlace) (hs : Step r c s)
    (hprotected : s.NeutralProtected) : c.SparesNeutral := by
  have hcount := hs.count_neutralId h.count_id
  cases hs with
  | @updateCurrency draft c hc _ _ _ _ hfound =>
    intro hid
    have hc₀ : c.id = Currency.neutralId := by rw [hc]; exact hid
    have hmem := mem_replaceCurrency_self hfound
    have hpos : 0 < (replaceCurrency c r.currencies).countP (·.isNeutral) := by
      rw [hprotected.one]
      exact Nat.one_pos
    obtain ⟨n, hn, hneutral⟩ := List.countP_pos_iff.1 hpos
    have hn₀ : n.id = Currency.neutralId := by
      rcases mem_replaceCurrency hn with rfl | hr
      · exact hc₀
      · exact (h.inPlace n hr).1.1 hneutral
    obtain rfl : n = c := eq_of_count_id hcount hn hmem hn₀ hc₀
    have hdefault := hprotected.notDefault n hmem hneutral
    rw [hc] at hneutral hdefault
    exact ⟨Code.isNeutral_iff.1 hneutral, hdefault⟩
  | createCurrency | changeDefault | createRate | updateRate | deleteRate => trivial

/-- The neutral unit is protected throughout a run exactly if every update that is accepted in it
under the neutral id leaves the currency the neutral unit and not the default. -/
theorem neutralProtected_iff (changes : List Change) :
    (∀ before, before <+: changes → (afterAll before initial).NeutralProtected) ↔
      ∀ before draft, (Change.updateCurrency draft).SucceedsIn before changes →
        draft.id = Currency.neutralId → draft.code = .neutral ∧ draft.isDefault = false := by
  rw [throughout_iff_of_invariant (Q := fun _ c ↦ c.SparesNeutral) neutralInPlace_initial
    (fun _ h ↦ h.neutralProtected) (fun _ _ _ h hs ↦ h.sparesNeutral hs)
    (fun _ _ _ h hs ↦ h.step hs)]
  refine ⟨fun h before draft ↦ h before (.updateCurrency draft), fun h before c hc ↦ ?_⟩
  cases c with
  | updateCurrency draft => exact h before draft hc
  | createCurrency | changeDefault | createRate | updateRate | deleteRate => trivial

def spareNeutral : List Change := [
  .createCurrency { Currency.neutral with code := .ofText "USD", title := "Dollar" },
  .updateCurrency { Currency.neutral with title := "Neutral unit" },
  .updateCurrency { Currency.neutral with id := 1, title := "Dollar" },
  .changeDefault 0,
  .changeDefault 1]

theorem neutralProtected_iff_spareNeutral :
    (afterAll spareNeutral initial).currencies.map (·.title) = ["Neutral unit", "Dollar"] ∧
    (afterAll spareNeutral initial).NeutralProtected := by
  refine ⟨by decide +kernel, (neutralProtected_iff _).2 ?_ _ List.prefix_rfl⟩
  intro before draft hc hid
  have hmem : Change.updateCurrency draft ∈ spareNeutral := hc.1.subset (by simp)
  simp only [spareNeutral, List.mem_cons, List.not_mem_nil, or_false, reduceCtorEq, false_or,
    Change.updateCurrency.injEq] at hmem
  rcases hmem with rfl | rfl
  · exact ⟨rfl, rfl⟩
  · exact absurd hid (by decide)

theorem neutral_default_after_update :
    (afterAll [.updateCurrency { Currency.neutral with isDefault := true }] initial).converter.map
      (·.base) = .ok .neutral ∧
    (afterAll [.updateCurrency { Currency.neutral with code := .ofText "USD" }]
      initial).currencies.countP (·.isNeutral) = 0 := by
  decide +kernel

end Registry

end Forex
