import Mathlib.Data.List.Induction

namespace Forex.History

variable {σ ε : Type} {f : σ → ε → σ} {b : σ} {events : List ε}

/-- What every event of a history keeps holds throughout it. -/
theorem throughout_induct {P : σ → Prop} (hinit : P b)
    (hstep : ∀ before e, before ++ [e] <+: events → P (before.foldl f b) →
      P (f (before.foldl f b) e))
    (before : List ε) (hpre : before <+: events) : P (before.foldl f b) := by
  induction before using List.reverseRecOn with
  | nil => exact hinit
  | append_singleton before e ih =>
    rw [List.foldl_append]
    exact hstep before e hpre (ih ((List.prefix_append before [e]).trans hpre))

/-- A property `V` holds throughout a history exactly if all its events meet a condition, provided
that meeting it keeps an invariant `P` behind the property, and that an event that leads from the
invariant to the property meets it. -/
theorem throughout_iff {P V : σ → Prop} {Q : σ → ε → Prop} (hinit : P b)
    (hV : ∀ s, P s → V s) (hmeets : ∀ s e, P s → V (f s e) → Q s e)
    (hkeeps : ∀ s e, P s → Q s e → P (f s e)) (events : List ε) :
    (∀ before, before <+: events → V (before.foldl f b)) ↔
      ∀ before e, before ++ [e] <+: events → Q (before.foldl f b) e := by
  constructor
  · intro h before e hpre
    have hafter (before : List ε) (e : ε) (hpre : before ++ [e] <+: events) :
        V (f (before.foldl f b) e) := by
      have hlast := h _ hpre
      rw [List.foldl_append] at hlast
      exact hlast
    have hP : P (before.foldl f b) := by
      refine throughout_induct hinit (fun before e hpre hP ↦ ?_) before
        ((List.prefix_append before [e]).trans hpre)
      exact hkeeps _ e hP (hmeets _ e hP (hafter before e hpre))
    exact hmeets _ e hP (hafter before e hpre)
  · intro h before hpre
    exact hV _ (throughout_induct hinit
      (fun before e hpre hP ↦ hkeeps _ e hP (h before e hpre)) before hpre)

theorem forall_events_cons {Q : σ → ε → Prop} {e : ε} :
    (∀ before e', before ++ [e'] <+: e :: events → Q (before.foldl f b) e') ↔
      Q b e ∧ ∀ before e', before ++ [e'] <+: events → Q (before.foldl f (f b e)) e' := by
  constructor
  · intro h
    refine ⟨h [] e (List.prefix_append [e] events), fun before e' hpre ↦ ?_⟩
    exact h (e :: before) e' (List.cons_prefix_cons.2 ⟨rfl, hpre⟩)
  · rintro ⟨hfirst, hrest⟩ before e' hpre
    cases before with
    | nil =>
      obtain ⟨rfl, -⟩ := List.cons_prefix_cons.1 hpre
      exact hfirst
    | cons x before =>
      obtain ⟨rfl, hafter⟩ := List.cons_prefix_cons.1 hpre
      exact hrest before e' hafter

end Forex.History
