import Forex.Proofs.Entries
import Forex.Proofs.Store.Step
import Forex.Store.Traffic

namespace Forex.Store.Traffic

variable {t : Traffic} {m n : Nat} {progress : Progress}

def Numbered (t : Traffic) : Prop := ∀ n, t.started ≤ n → t.waiting.lookup n = none

theorem waiting_note (others : List (Nat × Call)) (next : Store × Progress) :
    (t.note n others next).waiting = others ++ (next.2.call?.map (n, ·)).toList := by
  obtain ⟨store, progress⟩ := next
  cases progress with
  | waiting call => rfl
  | refreshed | found => exact (List.append_nil others).symm

theorem store_note (others : List (Nat × Call)) (next : Store × Progress) :
    (t.note n others next).store = next.1 := by
  obtain ⟨store, progress⟩ := next
  cases progress <;> rfl

theorem started_note (others : List (Nat × Call)) (next : Store × Progress) :
    (t.note n others next).started = t.started := by
  obtain ⟨store, progress⟩ := next
  cases progress <;> rfl

/-- The call with number `n` makes a step and stands as `progress` says; the others wait as
before. -/
structure Moves (t : Traffic) (n : Nat) (progress : Progress) (t' : Traffic) : Prop where
  step : Store.Step t.store (t.waiting.lookup n) t'.store progress
  waiting : t'.waiting = t.waiting.filter (·.1 != n) ++ (progress.call?.map (n, ·)).toList
  fresh : t.waiting.lookup n = none → n = t.started
  started_le : t.started ≤ t'.started
  lt_started : n < t'.started

theorem Moves.self {t' : Traffic} (h : t.Moves n progress t') :
    t'.waiting.lookup n = progress.call? := by
  rw [h.waiting, List.lookup_append, lookup_filter_self]
  cases progress.call? <;> simp

theorem Moves.others {t' : Traffic} (h : t.Moves n progress t') (m : Nat) (hm : m ≠ n) :
    t'.waiting.lookup m = t.waiting.lookup m := by
  have hne : (m == n) = false := by simpa using hm
  rw [h.waiting, List.lookup_append, lookup_filter_of_ne _ hm]
  cases progress.call? <;> simp [List.lookup_cons, hne]

theorem Moves.numbered {t' : Traffic} (ht : t.Numbered) (h : t.Moves n progress t') :
    t'.Numbered := by
  intro m hm
  have hlt := h.lt_started
  have hle := h.started_le
  rw [h.others m (by omega)]
  exact ht m (by omega)

theorem moves_start (ht : t.Numbered) {begun : Store × Progress}
    (hstep : Store.Step t.store none begun.1 begun.2) :
    t.Moves t.started begun.2 (t.start begun).1 := by
  have hnone : t.waiting.lookup t.started = none := ht _ (Nat.le_refl _)
  refine ⟨?_, ?_, fun _ ↦ rfl, ?_, ?_⟩
  · rw [hnone, start, store_note]
    exact hstep
  · have hothers : t.waiting.filter (·.1 != t.started) = t.waiting := by
      refine List.filter_eq_self.2 fun x hx ↦ ?_
      have hne := List.lookup_eq_none_iff.1 hnone x hx
      simpa using Ne.symm (bne_iff_ne.1 hne)
    rw [hothers]
    exact waiting_note t.waiting begun
  · rw [start, started_note]
    exact Nat.le_succ _
  · rw [start, started_note]
    exact Nat.lt_succ_self _

theorem moves_answer (ht : t.Numbered) {call : Call} (hcall : t.waiting.lookup n = some call)
    {next : Store × Progress} (hstep : Store.Step t.store (some call) next.1 next.2) :
    t.Moves n next.2 (t.note n (t.waiting.filter (·.1 != n)) next) := by
  have hlt : n < t.started := by
    refine Nat.lt_of_not_le fun hge ↦ ?_
    rw [ht n hge] at hcall
    cases hcall
  refine ⟨?_, waiting_note _ next, ?_, ?_, ?_⟩
  · rw [hcall, store_note]
    exact hstep
  · rw [hcall]
    exact nofun
  · exact Nat.le_of_eq (started_note _ _).symm
  · rwa [started_note]

/-- An event is lost and changes nothing, or one call makes a step. -/
theorem step_cases (ht : t.Numbered) (e : Event) :
    t.step e = (t, none) ∨
      ∃ n progress, (t.step e).2 = some (n, progress) ∧ t.Moves n progress (t.step e).1 := by
  cases e with
  | refresh silent =>
    exact .inr ⟨_, _, rfl, moves_start ht (t.store.step_startRefresh silent)⟩
  | pairRate p => exact .inr ⟨_, _, rfl, moves_start ht (t.store.step_startPairRate p)⟩
  | answer number provider now =>
    cases hcall : t.waiting.lookup number with
    | none => exact .inl (by simp only [step, hcall])
    | some call =>
      have hstep := t.store.step_resume now call (provider call.request)
      refine .inr ⟨number, (t.store.resume now call (provider call.request)).2, ?_, ?_⟩
      · simp only [step, hcall]
      · simp only [step, hcall]
        exact moves_answer ht hcall hstep

theorem moves_of_step {e : Event} (ht : t.Numbered) (h : (t.step e).2 = some (n, progress)) :
    t.Moves n progress (t.step e).1 := by
  rcases step_cases ht e with hlost | ⟨m, progress', he, hmoves⟩
  · rw [hlost] at h
    cases h
  · obtain ⟨rfl, rfl⟩ : m = n ∧ progress' = progress := by simpa [he] using h
    exact hmoves

theorem numbered_of_idle (store : Store) : ({ store } : Traffic).Numbered := fun _ _ ↦ rfl

theorem Numbered.step (ht : t.Numbered) (e : Event) : (t.step e).1.Numbered := by
  rcases step_cases ht e with hlost | ⟨n, progress, -, hmoves⟩
  · rw [hlost]
    exact ht
  · exact hmoves.numbered ht

theorem Numbered.run (ht : t.Numbered) (events : List Event) : (t.run events).Numbered := by
  induction events generalizing t with
  | nil => exact ht
  | cons e events ih => exact ih (ht.step e)

theorem run_induct {P : Traffic → Prop}
    (hstep : ∀ t n progress t', t.Numbered → P t → t.Moves n progress t' → P t')
    (ht : t.Numbered) (h : P t) (events : List Event) : P (t.run events) := by
  induction events generalizing t with
  | nil => exact h
  | cons e events ih =>
    apply ih (ht.step e)
    rcases step_cases ht e with hlost | ⟨n, progress, -, hmoves⟩
    · rw [hlost]
      exact h
    · exact hstep t n progress _ ht h hmoves

end Forex.Store.Traffic
