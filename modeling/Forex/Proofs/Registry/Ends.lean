import Forex.Proofs.Rate.Written
import Forex.Proofs.Registry.Codes

namespace Forex.Registry

variable {r s : Registry} {c : Change} {code : Code}

def KnowsEnds (r : Registry) : Prop :=
  ∀ e ∈ r.rates.edges, e.pair.source ∈ r.codes ∧ e.pair.target ∈ r.codes

/-- No update takes the code away from the only currency that has it. -/
def Change.SparesCode (r : Registry) (code : Code) : Change → Prop
  | updateCurrency draft => ∀ k, r.currencyWithId? draft.id = some k → k.code = code →
      draft.code = k.code ∨ 1 < r.codes.count k.code
  | _ => True

theorem currencyWithCode?_isSome_iff : (r.currencyWithCode? code).isSome ↔ code ∈ r.codes := by
  simp [currencyWithCode?, Forex.currencyWithCode?, codes]

theorem mem_erase_iff_one_lt_count {l : List Code} : code ∈ l.erase code ↔ 1 < l.count code := by
  rw [← List.count_pos_iff, List.count_erase_self]
  omega

theorem Step.mem_codes_iff (h : code ∈ r.codes) (hs : Step r c s) :
    code ∈ s.codes ↔ c.SparesCode r code := by
  rw [hs.codes_perm.mem_iff]
  cases c with
  | updateCurrency draft =>
    cases hx : r.currencyWithId? draft.id with
    | none => simp [Change.codes, Change.SparesCode, hx, h]
    | some x =>
      simp only [Change.codes, Change.SparesCode, hx, Option.elim_some, List.mem_cons,
        Option.some.injEq, forall_eq']
      by_cases hcode : x.code = code
      · simp only [hcode, mem_erase_iff_one_lt_count, forall_const, eq_comm]
      · simp [hcode, List.mem_erase_of_ne (Ne.symm hcode), h]
  | createCurrency draft => simp [Change.codes, Change.SparesCode, h]
  | changeDefault | createRate | updateRate | deleteRate =>
    simpa [Change.codes, Change.SparesCode] using h

/-- An update spares the codes that edges mention, and a change of the default finds the neutral
unit in the catalogue. -/
def Change.SparesEnds (r : Registry) : Change → Prop
  | updateCurrency draft => ∀ e ∈ r.rates.edges, ∀ k, r.currencyWithId? draft.id = some k →
      k.code = e.pair.source ∨ k.code = e.pair.target →
        draft.code = k.code ∨ 1 < r.codes.count k.code
  | changeDefault _ => .neutral ∈ r.codes
  | _ => True

theorem Accepts.ends_mem {e : ExchangeRate} (h : r.Accepts e) :
    e.pair.source ∈ r.codes ∧ e.pair.target ∈ r.codes :=
  ⟨currencyWithCode?_isSome_iff.1 h.source, currencyWithCode?_isSome_iff.1 h.target⟩

theorem KnowsEnds.withRate (h : r.KnowsEnds) {e : ExchangeRate} (he : r.Accepts e) :
    (r.withRate e).KnowsEnds := by
  intro d hd
  rcases RateTable.mem_of_mem_putBothWays hd with rfl | rfl | hd
  · exact he.ends_mem.symm
  · exact he.ends_mem
  · exact h d hd

theorem KnowsEnds.withDefault_iff (h : r.KnowsEnds) {id : Int32} (hcode : code ∈ r.codes) :
    (r.withDefault id code).KnowsEnds ↔ .neutral ∈ r.codes := by
  unfold KnowsEnds
  rw [codes_withDefault]
  constructor
  · intro hknown
    exact (hknown _ (RateTable.mem_upsert_self _ _)).1
  · intro hneutral d hd
    rcases RateTable.mem_of_mem_pin hd with rfl | rfl | hd
    · exact ⟨hneutral, hcode⟩
    · exact ⟨hcode, hneutral⟩
    · exact h d hd

theorem Step.knowsEnds_iff (h : r.KnowsEnds) (hs : Step r c s) :
    s.KnowsEnds ↔ c.SparesEnds r := by
  have hmem {code : Code} (hcode : code ∈ r.codes) := hs.mem_codes_iff hcode
  cases hs with
  | createCurrency =>
    refine iff_of_true (fun e he ↦ ?_) trivial
    exact ⟨(hmem (h e he).1).2 trivial, (hmem (h e he).2).2 trivial⟩
  | updateCurrency =>
    refine forall₂_congr fun e he ↦ (and_congr (hmem (h e he).1) (hmem (h e he).2)).trans ?_
    simp only [Change.SparesCode, or_imp, forall_and]
  | changeDefault _ _ hnext =>
    exact h.withDefault_iff (List.mem_map_of_mem (List.mem_of_find?_eq_some hnext))
  | createRate _ he => exact iff_of_true (h.withRate he) trivial
  | updateRate _ he => exact iff_of_true (h.withRate he) trivial
  | @deleteRate p e rest hedge =>
    have hrest := RateTable.erase_of_remove? _ _ _ hedge
    subst hrest
    refine iff_of_true (fun d hd ↦ h d ?_) trivial
    exact RateTable.edges_erase_subset _ _ (RateTable.edges_erase_subset _ _ hd)

def Change.KeepsCode (r : Registry) : Change → Prop
  | updateCurrency draft => ∀ k, r.currencyWithId? draft.id = some k → draft.code = k.code
  | _ => True

theorem Change.KeepsCode.sparesCode (h : c.KeepsCode r) (code : Code) : c.SparesCode r code := by
  cases c with
  | updateCurrency draft => exact fun k hk _ ↦ .inl (h k hk)
  | createCurrency | changeDefault | createRate | updateRate | deleteRate => trivial

theorem Change.KeepsCode.sparesEnds (h : c.KeepsCode r) (hneutral : .neutral ∈ r.codes) :
    c.SparesEnds r := by
  cases c with
  | updateCurrency draft => exact fun _ _ k hk _ ↦ .inl (h k hk)
  | changeDefault id => exact hneutral
  | createCurrency | createRate | updateRate | deleteRate => trivial

theorem neutral_mem_codes_iff (changes : List Change) :
    (∀ before, before <+: changes → .neutral ∈ (afterAll before initial).codes) ↔
      ∀ before (c : Change), c.SucceedsIn before changes →
        c.SparesCode (afterAll before initial) .neutral :=
  throughout_iff (P := fun r ↦ .neutral ∈ r.codes) (by decide)
    (fun _ _ _ h hs ↦ hs.mem_codes_iff h) changes

theorem knowsEnds_throughout_iff (changes : List Change) :
    (∀ before, before <+: changes → (afterAll before initial).KnowsEnds) ↔
      ∀ before (c : Change), c.SucceedsIn before changes →
        c.SparesEnds (afterAll before initial) :=
  throughout_iff (fun _ he ↦ nomatch he) (fun _ _ _ h hs ↦ hs.knowsEnds_iff h) changes

theorem knowsEnds_of_keepsCode {changes : List Change}
    (h : ∀ before (c : Change), c.SucceedsIn before changes →
      c.KeepsCode (afterAll before initial)) :
    (afterAll changes initial).KnowsEnds := by
  have hneutral := (neutral_mem_codes_iff changes).2 fun before c hc ↦
    (h before c hc).sparesCode .neutral
  refine (knowsEnds_throughout_iff changes).2 (fun before c hc ↦ ?_) changes List.prefix_rfl
  exact (h before c hc).sparesEnds (hneutral before ((List.prefix_append before [c]).trans hc.1))

/-- No end of an edge is unknown throughout a run exactly if no update that is accepted in it takes
a code that an edge mentions away from the only currency that has it, and every change of the
default that is accepted finds the neutral unit in the catalogue. This is so if no update that is
accepted changes a code. -/
theorem ends_known_iff (changes : List Change) :
    ((∀ before, before <+: changes → (afterAll before initial).KnowsEnds) ↔
      (∀ before draft, (Change.updateCurrency draft).SucceedsIn before changes →
        ∀ e ∈ (afterAll before initial).rates.edges,
        ∀ k, (afterAll before initial).currencyWithId? draft.id = some k →
          k.code = e.pair.source ∨ k.code = e.pair.target →
            draft.code = k.code ∨ 1 < (afterAll before initial).codes.count k.code) ∧
      ∀ before id, (Change.changeDefault id).SucceedsIn before changes →
        .neutral ∈ (afterAll before initial).codes) ∧
    ((∀ before draft, (Change.updateCurrency draft).SucceedsIn before changes →
        ∀ k, (afterAll before initial).currencyWithId? draft.id = some k → draft.code = k.code) →
      (afterAll changes initial).KnowsEnds) := by
  rw [knowsEnds_throughout_iff]
  refine ⟨⟨fun h ↦ ⟨fun before draft ↦ h before (.updateCurrency draft),
    fun before id ↦ h before (.changeDefault id)⟩, fun h before c hc ↦ ?_⟩, fun hcodes ↦ ?_⟩
  · cases c with
    | updateCurrency draft => exact h.1 before draft hc
    | changeDefault id => exact h.2 before id hc
    | createCurrency | createRate | updateRate | deleteRate => trivial
  · refine knowsEnds_of_keepsCode fun before c hc ↦ ?_
    cases c with
    | updateCurrency draft => exact hcodes before draft hc
    | createCurrency | changeDefault | createRate | updateRate | deleteRate => trivial

def spareEnds : List Change := [
  .createCurrency { Currency.neutral with code := .ofText "USD", title := "Dollar" },
  .createCurrency { Currency.neutral with code := .ofText "EUR", title := "Euro" },
  .createRate { pair := ⟨.neutral, .ofText "USD"⟩, rate := .hundred },
  .updateCurrency { Currency.neutral with id := 2, code := .ofText "GBP", title := "Pound" },
  .changeDefault 2]

theorem ends_known_iff_spareEnds :
    (afterAll spareEnds initial).rates.pairs = [⟨.neutral, .ofText "USD"⟩,
      ⟨.ofText "USD", .neutral⟩, ⟨.ofText "GBP", .neutral⟩, ⟨.neutral, .ofText "GBP"⟩] ∧
    (afterAll spareEnds initial).KnowsEnds := by
  have hother : ∀ k ∈ (afterAll (spareEnds.take 3) initial).currencies, k.id = 2 →
      ∀ e ∈ (afterAll (spareEnds.take 3) initial).rates.edges,
        ¬(k.code = e.pair.source ∨ k.code = e.pair.target) := by
    decide
  have hneutral : .neutral ∈ (afterAll (spareEnds.take 4) initial).codes := by decide
  have hspares : ∀ before c, before ++ [c] <+: spareEnds →
      c.SparesEnds (afterAll before initial) := by
    unfold afterAll spareEnds
    simp only [History.forall_events_cons (Q := fun r c ↦ Change.SparesEnds r c)]
    refine ⟨trivial, trivial, trivial, fun e he k hk hend ↦ ?_, hneutral, ?_⟩
    · have hid : k.id = 2 := by simpa using List.find?_some hk
      exact absurd hend (hother k (List.mem_of_find?_eq_some hk) hid e he)
    · simp
  refine ⟨by decide, (ends_known_iff spareEnds).1.2 ⟨?_, ?_⟩ _ List.prefix_rfl⟩
  · exact fun before draft hc ↦ hspares before _ hc.1
  · exact fun before id hc ↦ hspares before _ hc.1

def renamedEnd : List Change := [
  .createCurrency { Currency.neutral with code := .ofText "USD", title := "Dollar" },
  .createRate { pair := ⟨.neutral, .ofText "USD"⟩, rate := .hundred },
  .updateCurrency { Currency.neutral with id := 1, code := .ofText "EUR", title := "Euro" }]

theorem not_knowsEnds_renamedEnd : ¬(afterAll renamedEnd initial).KnowsEnds := by
  unfold KnowsEnds
  decide

end Forex.Registry
