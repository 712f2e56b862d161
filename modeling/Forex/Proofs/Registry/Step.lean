import Forex.Proofs.History
import Forex.Proofs.Registry.Edit
import Mathlib.Tactic.SplitIfs

namespace Forex.Registry

/-- The steps from `r`, one constructor for each kind of change. -/
inductive Step (r : Registry) : Change → Registry → Prop
  | createCurrency {draft c : Currency} (hc : c = (r.complete draft).trimmed)
      (hcode : c.code.isEmpty = false) (htitle : c.title.isEmpty = false)
      (hdefault : c.isDefault → ∀ k ∈ r.currencies, k.isDefault = false)
      (hfresh : ∀ k ∈ r.currencies, k.code ≠ c.code) :
      Step r (.createCurrency draft) { r with currencies := r.currencies ++ [c] }
  | updateCurrency {draft c : Currency} (hc : c = draft.trimmed)
      (hcode : c.code.isEmpty = false) (htitle : c.title.isEmpty = false)
      (hdefault : c.isDefault → ∀ k ∈ r.currencies, k.isDefault → k.id = c.id)
      (hfresh : ∀ k ∈ r.currencies, k.code = c.code → k.id = c.id)
      (hid : (r.currencyWithId? c.id).isSome) :
      Step r (.updateCurrency draft) { r with currencies := replaceCurrency c r.currencies }
  | changeDefault {id : Int32} {next : Currency} (hid : id ≠ Currency.neutralId)
      (hone : r.currencies.countP (·.isDefault) ≤ 1) (hnext : r.currencyWithId? id = some next)
      (hother : next.isDefault = false) :
      Step r (.changeDefault id) (r.withDefault id next.code)
  | createRate {e : ExchangeRate} (hneutral : e.pair.touchesNeutral) (he : r.Accepts e) :
      Step r (.createRate e) (r.withRate e)
  | updateRate {e : ExchangeRate} (hedge : (r.rates.get? e.pair).isSome) (he : r.Accepts e) :
      Step r (.updateRate e) (r.withRate e)
  | deleteRate {p : Pair} {e : ExchangeRate} {rest : RateTable}
      (hedge : r.rates.remove? p = some (e, rest)) :
      Step r (.deleteRate p) { r with rates := rest.erase p.swap }

inductive Outcome (r : Registry) (c : Change) :
    EStateM.Result (Abort RegistryError) Registry Unit → Prop
  | made {s : Registry} (h : Step r c s) : Outcome r c (.ok () s)
  | refused (f : RegistryError) : Outcome r c (.error (.refused f) r)

variable {r s : Registry}

theorem outcome_createCurrency (draft : Currency) :
    Outcome r (.createCurrency draft) ((Change.createCurrency draft).edit.run r) := by
  simp only [Change.edit, EStateM.run_bind, run_createCurrency, EStateM.run_pure]
  split_ifs with hblank hdefault hcode
  · exact .refused _
  · exact .refused _
  · exact .refused _
  · simp only [Bool.or_eq_true, not_or, Bool.not_eq_true] at hblank
    exact .made (.createCurrency rfl hblank.1 hblank.2 (by simpa using hdefault)
      (by simpa using hcode))

theorem outcome_updateCurrency (draft : Currency) :
    Outcome r (.updateCurrency draft) ((Change.updateCurrency draft).edit.run r) := by
  simp only [Change.edit, run_updateCurrency]
  split_ifs with hblank hdefault hcode hid
  · exact .refused _
  · exact .refused _
  · exact .refused _
  · exact .refused _
  · simp only [Bool.or_eq_true, not_or, Bool.not_eq_true] at hblank
    exact .made (.updateCurrency rfl hblank.1 hblank.2 (by simpa using hdefault)
      (by simpa using hcode) (by simpa [Option.isSome_iff_ne_none] using hid))

theorem outcome_changeDefault (id : Int32) :
    Outcome r (.changeDefault id) ((Change.changeDefault id).edit.run r) := by
  simp only [Change.edit, run_changeDefault]
  split_ifs with hid hone
  · exact .refused _
  · exact .refused _
  · cases hnext : r.currencyWithId? id with
    | none => exact .refused _
    | some next =>
      dsimp only
      split_ifs with hdefault
      · exact .refused _
      · exact .made (.changeDefault hid (by omega) hnext (by simpa using hdefault))

theorem outcome_createRate (e : ExchangeRate) :
    Outcome r (.createRate e) ((Change.createRate e).edit.run r) := by
  simp only [Change.edit, run_createRate]
  split_ifs with hneutral
  · exact .refused _
  · cases he : r.rateFault? e with
    | some f => exact .refused f
    | none =>
      exact .made (.createRate (by simpa using hneutral) ((r.rateFault?_eq_none_iff e).1 he))

theorem outcome_updateRate (e : ExchangeRate) :
    Outcome r (.updateRate e) ((Change.updateRate e).edit.run r) := by
  simp only [Change.edit, run_updateRate]
  cases he : r.rateFault? e with
  | some f => exact .refused f
  | none =>
    dsimp only
    split_ifs with hedge
    · exact .refused _
    · exact .made (.updateRate (by simpa [Option.isSome_iff_ne_none] using hedge)
        ((r.rateFault?_eq_none_iff e).1 he))

theorem outcome_deleteRate (p : Pair) :
    Outcome r (.deleteRate p) ((Change.deleteRate p).edit.run r) := by
  simp only [Change.edit, EStateM.run_bind, run_deleteRate, EStateM.run_pure]
  cases hedge : r.rates.remove? p with
  | none => exact .refused _
  | some x => exact .made (.deleteRate hedge)

theorem outcome (r : Registry) (c : Change) : Outcome r c (c.edit.run r) := by
  cases c with
  | createCurrency draft => exact outcome_createCurrency draft
  | updateCurrency draft => exact outcome_updateCurrency draft
  | changeDefault id => exact outcome_changeDefault id
  | createRate e => exact outcome_createRate e
  | updateRate e => exact outcome_updateRate e
  | deleteRate p => exact outcome_deleteRate p

theorem step_of_run_eq_ok {c : Change} (h : c.edit.run r = .ok () s) : Step r c s := by
  have ho := outcome r c
  rw [h] at ho
  cases ho with
  | made h => exact h

theorem eq_of_run_eq_error {c : Change} {e : Abort RegistryError}
    (h : c.edit.run r = .error e s) : s = r ∧ ∃ f, e = .refused f := by
  have ho := outcome r c
  rw [h] at ho
  cases ho with
  | refused f => exact ⟨rfl, f, rfl⟩

theorem Step.run_eq_ok {c : Change} (h : Step r c s) : c.edit.run r = .ok () s := by
  cases h with
  | createCurrency hc hcode htitle hdefault hfresh =>
    subst hc
    simp only [Change.edit, EStateM.run_bind, run_createCurrency]
    rw [if_neg (by simp [hcode, htitle]), if_neg (by simpa using hdefault),
      if_neg (by simpa using hfresh)]
    rfl
  | updateCurrency hc hcode htitle hdefault hfresh hid =>
    subst hc
    simp only [Change.edit, run_updateCurrency]
    rw [if_neg (by simp [hcode, htitle]), if_neg (by simpa using hdefault),
      if_neg (by simpa using hfresh), if_neg (by simpa [Option.isSome_iff_ne_none] using hid)]
  | changeDefault hid hone hnext hother =>
    simp [Change.edit, run_changeDefault, hid, Nat.not_lt.2 hone, hnext, hother]
  | createRate hneutral he =>
    simp [Change.edit, run_createRate, hneutral, (r.rateFault?_eq_none_iff _).2 he]
  | updateRate hedge he =>
    simp [Change.edit, run_updateRate, (r.rateFault?_eq_none_iff _).2 he,
      Option.isSome_iff_ne_none.1 hedge]
  | deleteRate hedge =>
    simp only [Change.edit, EStateM.run_bind, run_deleteRate, hedge, EStateM.run_pure]

theorem run_eq_ok_iff {c : Change} : c.edit.run r = .ok () s ↔ Step r c s :=
  ⟨step_of_run_eq_ok, Step.run_eq_ok⟩

theorem after_edit (r : Registry) (c : Change) :
    after c.edit r = r ∨ Step r c (after c.edit r) := by
  unfold after
  cases h : c.edit.run r with
  | ok _ s => exact .inr (step_of_run_eq_ok h)
  | error e s => exact .inl (eq_of_run_eq_error h).1

theorem afterAll_induct {P : Registry → Prop} (hstep : ∀ r c s, P r → Step r c s → P s)
    (changes : List Change) (h : P r) : P (afterAll changes r) := by
  induction changes generalizing r with
  | nil => exact h
  | cons c changes ih =>
    refine ih (r := after c.edit r) ?_
    rcases after_edit r c with he | hs
    · rw [he]
      exact h
    · exact hstep r c _ h hs

theorem after_eq {c : Change} (h : Step r c s) : after c.edit r = s := by
  rw [after, h.run_eq_ok]

/-- In a run of `changes` from `b` the change `c` comes after `before` and succeeds. -/
def Change.SucceedsFrom (b : Registry) (c : Change) (before changes : List Change) : Prop :=
  before ++ [c] <+: changes ∧ ∃ s, c.edit.run (afterAll before b) = .ok () s

def Change.SucceedsIn (c : Change) (before changes : List Change) : Prop :=
  before ++ [c] <+: changes ∧ ∃ s, c.edit.run (afterAll before initial) = .ok () s

/-- A property `V` holds throughout a run exactly if all changes that succeed in it meet a
condition, provided that meeting it keeps an invariant `P` behind the property, and that a step from
the invariant to the property meets it. -/
theorem throughout_from_iff {b : Registry} {P V : Registry → Prop} {Q : Registry → Change → Prop}
    (hb : P b) (hV : ∀ r, P r → V r)
    (hmeets : ∀ r c s, P r → Step r c s → V s → Q r c)
    (hkeeps : ∀ r c s, P r → Step r c s → Q r c → P s) (changes : List Change) :
    (∀ before, before <+: changes → V (afterAll before b)) ↔
      ∀ before c, c.SucceedsFrom b before changes → Q (afterAll before b) c := by
  have hthroughout := History.throughout_iff (f := fun r (c : Change) ↦ after c.edit r)
    (Q := fun r c ↦ (∃ s, c.edit.run r = .ok () s) → Q r c) hb hV
    (fun r c hP hafter ⟨s, hrun⟩ ↦ by
      have hs := step_of_run_eq_ok hrun
      exact hmeets r c s hP hs (after_eq hs ▸ hafter))
    (fun r c hP hQ ↦ by
      rcases after_edit r c with he | hs
      · rw [he]
        exact hP
      · exact hkeeps r c _ hP hs (hQ ⟨_, hs.run_eq_ok⟩))
    changes
  exact hthroughout.trans
    ⟨fun h before c hc ↦ h before c hc.1 hc.2, fun h before c hpre hrun ↦ h before c ⟨hpre, hrun⟩⟩

theorem throughout_iff_of_invariant {P V : Registry → Prop} {Q : Registry → Change → Prop}
    (hinit : P initial) (hV : ∀ r, P r → V r)
    (hmeets : ∀ r c s, P r → Step r c s → V s → Q r c)
    (hkeeps : ∀ r c s, P r → Step r c s → Q r c → P s) (changes : List Change) :
    (∀ before, before <+: changes → V (afterAll before initial)) ↔
      ∀ before c, c.SucceedsIn before changes → Q (afterAll before initial) c :=
  throughout_from_iff hinit hV hmeets hkeeps changes

theorem throughout_iff {P : Registry → Prop} {Q : Registry → Change → Prop} (hinit : P initial)
    (hstep : ∀ r c s, P r → Step r c s → (P s ↔ Q r c)) (changes : List Change) :
    (∀ before, before <+: changes → P (afterAll before initial)) ↔
      ∀ before c, c.SucceedsIn before changes → Q (afterAll before initial) c :=
  throughout_iff_of_invariant hinit (fun _ h ↦ h) (fun r c s h hs ↦ (hstep r c s h hs).1)
    (fun r c s h hs ↦ (hstep r c s h hs).2) changes

theorem Reachable.induct {P : Registry → Prop} (hinit : P initial)
    (hstep : ∀ r c s, P r → Step r c s → P s) (h : Reachable r) : P r := by
  obtain ⟨changes, rfl⟩ := h
  exact afterAll_induct hstep changes hinit

end Forex.Registry
