import Forex.Proofs.Entries
import Forex.Proofs.Registry.Default
import Mathlib.Data.List.Perm.Basic

namespace Forex.Registry

variable {r s : Registry} {c : Change}

def codes (r : Registry) : List Code := r.currencies.map (·.code)

theorem map_code_replaceCurrency_perm {c k : Currency} {ks : List Currency}
    (h : ks.find? (·.id == c.id) = some k) :
    ((replaceCurrency c ks).map (·.code)).Perm (c.code :: (ks.map (·.code)).erase k.code) := by
  induction ks with
  | nil => cases h
  | cons x ks ih =>
    unfold replaceCurrency
    by_cases hx : x.id = c.id
    · obtain rfl : x = k := by simpa [hx] using h
      simp [hx]
    · have hrest : ks.find? (·.id == c.id) = some k := by simpa [hx] using h
      rw [if_neg hx, List.map_cons, List.map_cons]
      refine ((ih hrest).cons x.code).trans ((List.Perm.swap _ _ _).trans (.cons c.code ?_))
      by_cases hk : x.code = k.code
      · have hmem : k ∈ ks := List.mem_of_find?_eq_some hrest
        rw [hk, List.erase_cons_head]
        exact (List.perm_cons_erase (List.mem_map_of_mem hmem)).symm
      · rw [List.erase_cons_tail (by simpa using hk)]

def Change.codes (r : Registry) : Change → List Code
  | createCurrency draft => draft.code :: r.codes
  | updateCurrency draft =>
    (r.currencyWithId? draft.id).elim r.codes fun k ↦ draft.code :: r.codes.erase k.code
  | _ => r.codes

theorem codes_withDefault (r : Registry) (id : Int32) (code : Code) :
    (r.withDefault id code).codes = r.codes := by
  simp [codes, withDefault, Function.comp_def]

theorem Step.codes_perm (hs : Step r c s) : s.codes.Perm (c.codes r) := by
  cases hs with
  | @createCurrency draft k hk =>
    have hcode : k.code = draft.code := by rw [hk, Currency.code_trimmed, complete]
    simp [codes, Change.codes, hcode]
  | @updateCurrency draft k hk _ _ _ _ hid =>
    have hkid : k.id = draft.id := by rw [hk, Currency.id_trimmed]
    have hcode : k.code = draft.code := by rw [hk, Currency.code_trimmed]
    obtain ⟨x, hx⟩ := Option.isSome_iff_exists.1 hid
    rw [Change.codes, ← hkid, hx, ← hcode]
    exact map_code_replaceCurrency_perm hx
  | changeDefault => exact .of_eq (codes_withDefault _ _ _)
  | createRate | updateRate | deleteRate => exact .refl _

/-- An update keeps the code of the currency that it replaces or gives it a free one. -/
def Change.TakesFreeCode (r : Registry) : Change → Prop
  | updateCurrency draft =>
    ∀ k, r.currencyWithId? draft.id = some k → draft.code = k.code ∨ draft.code ∉ r.codes
  | _ => True

theorem Step.nodup_codes_iff (h : r.codes.Nodup) (hs : Step r c s) :
    s.codes.Nodup ↔ c.TakesFreeCode r := by
  rw [hs.codes_perm.nodup_iff]
  cases hs with
  | @createCurrency draft k hk _ _ _ hfresh =>
    have hcode : draft.code ∉ r.codes := by
      intro hmem
      obtain ⟨x, hx, hxc⟩ := List.mem_map.1 hmem
      exact hfresh x hx (by rw [hk]; exact hxc)
    simp [Change.codes, Change.TakesFreeCode, h, hcode]
  | @updateCurrency draft k hk _ _ _ _ hid =>
    obtain ⟨x, hx⟩ := Option.isSome_iff_exists.1 hid
    rw [hk, Currency.id_trimmed] at hx
    have hnodup : (r.codes.erase x.code).Nodup := h.erase _
    simp only [Change.codes, Change.TakesFreeCode, hx, Option.elim_some, List.nodup_cons, hnodup,
      and_true, h.mem_erase_iff, Option.some.injEq, forall_eq', ne_eq, not_and_or, not_not]
  | changeDefault | createRate | updateRate | deleteRate =>
    simp [Change.codes, Change.TakesFreeCode, h]

/-- Where ids are distinct, the check of an update finds the holder of its code. -/
theorem Step.takesFreeCode (h : r.ids.Nodup) (hs : Step r c s) : c.TakesFreeCode r := by
  cases hs with
  | @updateCurrency draft k hk _ _ _ hfresh =>
    intro x hx
    subst hk
    by_cases hmem : draft.code ∈ r.codes
    · obtain ⟨y, hy, hcode⟩ := List.mem_map.1 hmem
      have hyid : y.id = draft.id := hfresh y hy hcode
      have hxid : x.id = draft.id := by simpa using List.find?_some hx
      have hxy : x = y := List.inj_on_of_nodup_map h (List.mem_of_find?_eq_some hx) hy
        (hxid.trans hyid.symm)
      exact .inl (by rw [hxy, hcode])
    · exact .inr hmem
  | createCurrency | changeDefault | createRate | updateRate | deleteRate => trivial

/-- No two currencies have the same code throughout a run exactly if every update that is accepted
in it keeps the code of the currency that it replaces or gives it a free one. This is so if no new
currency that is accepted takes an id in use. The currency that is found under a code is then the
only one that has it. -/
theorem codes_unique (changes : List Change) :
    ((∀ before, before <+: changes → (afterAll before initial).codes.Nodup) ↔
      ∀ before draft, (Change.updateCurrency draft).SucceedsIn before changes →
        ∀ k, (afterAll before initial).currencyWithId? draft.id = some k →
          draft.code = k.code ∨ draft.code ∉ (afterAll before initial).codes) ∧
    ((∀ before draft, (Change.createCurrency draft).SucceedsIn before changes →
        ∀ k ∈ (afterAll before initial).currencies,
          k.id ≠ ((afterAll before initial).complete draft).id) →
      (afterAll changes initial).codes.Nodup) ∧
    ((afterAll changes initial).codes.Nodup → ∀ code c,
      (afterAll changes initial).currencyWithCode? code = some c ↔
        c ∈ (afterAll changes initial).currencies ∧ c.code = code) := by
  have hinit : initial.codes.Nodup := by decide
  have hiff := throughout_iff hinit (fun _ _ _ h hs ↦ hs.nodup_codes_iff h) changes
  refine ⟨?_, ?_, ?_⟩
  · rw [hiff]
    refine ⟨fun h before draft ↦ h before (.updateCurrency draft), fun h before c hc ↦ ?_⟩
    cases c with
    | updateCurrency draft => exact h before draft hc
    | createCurrency | changeDefault | createRate | updateRate | deleteRate => trivial
  · intro hfresh
    refine hiff.2 (fun before c hc ↦ ?_) changes List.prefix_rfl
    obtain ⟨s, hrun⟩ := hc.2
    have hbefore : before <+: changes := (List.prefix_append before [c]).trans hc.1
    have hids : (afterAll before initial).ids.Nodup := by
      refine nodup_ids_afterAll before fun earlier draft hd hmem ↦ ?_
      obtain ⟨k, hk, hid⟩ := List.mem_map.1 hmem
      exact hfresh earlier draft ⟨hd.1.trans hbefore, hd.2⟩ k hk hid
    exact (step_of_run_eq_ok hrun).takesFreeCode hids
  · intro h code c
    exact find?_eq_some_iff_of_nodup h

def exchangedCodes : List Change := [
  .createCurrency { Currency.neutral with id := 5, code := .ofText "USD", title := "Dollar" },
  .createCurrency { Currency.neutral with code := .ofText "EUR", title := "Euro" },
  .updateCurrency { Currency.neutral with id := 5, code := .ofText "GBP", title := "Pound" },
  .updateCurrency { Currency.neutral with id := 6, code := .ofText "USD", title := "Dollar" }]

theorem codes_unique_exchangedCodes :
    (afterAll exchangedCodes initial).codes = [.neutral, .ofText "GBP", .ofText "USD"] ∧
    (∀ before, before <+: exchangedCodes → (afterAll before initial).codes.Nodup) ∧
    ∀ c ∈ (afterAll exchangedCodes initial).currencies, c.code = .ofText "USD" →
      (afterAll exchangedCodes initial).currencyWithCode? (.ofText "USD") = some c := by
  have hfree : ∀ before c, before ++ [c] <+: exchangedCodes →
      c.TakesFreeCode (afterAll before initial) := by
    unfold afterAll exchangedCodes
    simp only [History.forall_events_cons (Q := fun r c ↦ Change.TakesFreeCode r c)]
    refine ⟨trivial, trivial, fun _ _ ↦ .inr ?_, fun _ _ ↦ .inr ?_, ?_⟩
    · decide
    · decide
    · simp
  have hfresh : ∀ before c, before ++ [c] <+: exchangedCodes → ∀ draft, c = .createCurrency draft →
      ∀ k ∈ (afterAll before initial).currencies,
        k.id ≠ ((afterAll before initial).complete draft).id := by
    unfold afterAll exchangedCodes
    simp only [History.forall_events_cons (Q := fun (r : Registry) (c : Change) ↦
      ∀ draft, c = .createCurrency draft → ∀ k ∈ r.currencies, k.id ≠ (r.complete draft).id)]
    refine ⟨?_, ?_, ?_, ?_, ?_⟩
    · rintro _ ⟨⟩
      decide
    · rintro _ ⟨⟩
      decide
    · rintro _ ⟨⟩
    · rintro _ ⟨⟩
    · simp
  have hnodup := (codes_unique exchangedCodes).2.1
    fun before draft hc ↦ hfresh before _ hc.1 draft rfl
  refine ⟨by decide, (codes_unique exchangedCodes).1.2 ?_, fun c hc hcode ↦ ?_⟩
  · exact fun before draft hc ↦ hfree before _ hc.1
  · exact ((codes_unique exchangedCodes).2.2 hnodup _ c).2 ⟨hc, hcode⟩

def sharedCode : List Change := [
  .createCurrency { Currency.neutral with id := 5, code := .ofText "USD", title := "Dollar" },
  .createCurrency { Currency.neutral with id := 5, code := .ofText "EUR", title := "Euro" },
  .updateCurrency { Currency.neutral with id := 5, code := .ofText "EUR", title := "Euro" }]

theorem not_nodup_codes_sharedCode : ¬(afterAll sharedCode initial).codes.Nodup := by
  decide

end Forex.Registry
