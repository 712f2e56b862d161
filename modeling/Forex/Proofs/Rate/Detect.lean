import Forex.Proofs.Registry.Edit

namespace Forex

namespace ExchangeRate

variable {e : ExchangeRate} {code : Code}

def isPin (e : ExchangeRate) : Bool :=
  decide (e.rate.SameValue .one) && e.pair.touchesNeutral && e.pair.source != e.pair.target

def pinned (e : ExchangeRate) : Code :=
  if e.pair.source.isNeutral then e.pair.target else e.pair.source

def joins (code : Code) (e : ExchangeRate) : Bool :=
  e.pair == ⟨code, .neutral⟩ || e.pair == ⟨.neutral, code⟩

theorem joins_iff : e.joins code ↔ e.pair = ⟨code, .neutral⟩ ∨ e.pair = ⟨.neutral, code⟩ := by
  simp [joins]

theorem joins_pinned (h : e.isPin) : e.pinned ≠ .neutral ∧ e.joins e.pinned := by
  obtain ⟨⟨source, target⟩, rate, commission⟩ := e
  simp only [isPin, Pair.touchesNeutral, Bool.and_eq_true, Bool.or_eq_true, bne_iff_ne,
    Code.isNeutral_iff] at h
  obtain ⟨⟨-, hneutral⟩, hne⟩ := h
  by_cases hsource : source = .neutral
  · have hpinned : pinned ⟨⟨source, target⟩, rate, commission⟩ = target :=
      if_pos (Code.isNeutral_iff.2 hsource)
    rw [hpinned, joins_iff, hsource]
    exact ⟨fun ht ↦ hne (hsource.trans ht.symm), .inr rfl⟩
  · have hpinned : pinned ⟨⟨source, target⟩, rate, commission⟩ = source :=
      if_neg (by rwa [Code.isNeutral_iff])
    rw [hpinned, joins_iff, hneutral.resolve_left hsource]
    exact ⟨hsource, .inl rfl⟩

theorem pinned_of_joins (hcode : code ≠ .neutral) (h : e.joins code) : e.pinned = code := by
  unfold pinned
  rcases joins_iff.1 h with h | h
  · rw [h]
    exact if_neg (by rwa [Code.isNeutral_iff])
  · rw [h]
    exact if_pos rfl

theorem isPin_of_joins (hcode : code ≠ .neutral) (hone : e.rate.SameValue .one)
    (h : e.joins code) : e.isPin := by
  have hneutral : Code.neutral.isNeutral := rfl
  rcases joins_iff.1 h with h | h
  · simp [isPin, Pair.touchesNeutral, hone, h, hneutral, hcode]
  · simp [isPin, Pair.touchesNeutral, hone, h, hneutral, hcode.symm]

end ExchangeRate

namespace RateTable

variable {t : RateTable} {code : Code} {d : ExchangeRate}

theorem detectDefault_eq (t : RateTable) :
    t.detectDefault = (t.edges.find? (·.isPin)).map (·.pinned) := rfl

theorem find?_putEdge_of {q : ExchangeRate → Bool} (hq : q d) (es : List ExchangeRate) :
    (putEdge d es).find? q =
      some (((es.find? fun e ↦ q e || e.pair == d.pair).map
        fun e ↦ if e.pair = d.pair then d else e).getD d) := by
  induction es with
  | nil => simp [putEdge, hq]
  | cons x xs ih =>
    unfold putEdge
    by_cases hx : x.pair = d.pair
    · simp [hx, hq]
    · by_cases hqx : q x
      · simp [hx, hqx]
      · simp [hx, hqx, ih]

/-- A code that has just been pinned is shown, unless an edge that shows another base stands before
it. -/
theorem detectDefault_pin (hcode : code ≠ .neutral) (t : RateTable) :
    (t.pin code).detectDefault =
      some (((t.edges.find? fun e ↦ e.isPin || e.joins code).map (·.pinned)).getD code) := by
  let there : ExchangeRate := { pair := ⟨code, .neutral⟩, rate := .one }
  let back : ExchangeRate := { pair := ⟨.neutral, code⟩, rate := .one }
  have hpairs : there.pair ≠ back.pair := fun h ↦ hcode (congrArg Pair.source h)
  have hthere : there.joins code := ExchangeRate.joins_iff.2 (.inl rfl)
  have hback : back.joins code := ExchangeRate.joins_iff.2 (.inr rfl)
  have hpin : there.isPin ∧ back.isPin :=
    ⟨ExchangeRate.isPin_of_joins hcode rfl hthere, ExchangeRate.isPin_of_joins hcode rfl hback⟩
  have hpinned : there.pinned = code ∧ back.pinned = code :=
    ⟨ExchangeRate.pinned_of_joins hcode hthere, ExchangeRate.pinned_of_joins hcode hback⟩
  have hfind := find?_putEdge_of (q := fun e ↦ e.isPin || e.pair == back.pair)
    (show there.isPin || there.pair == back.pair by rw [hpin.1, Bool.true_or]) t.edges
  have hany : (fun e : ExchangeRate ↦ (e.isPin || e.pair == back.pair) || e.pair == there.pair) =
      fun e ↦ e.isPin || e.joins code := by
    funext e
    rw [ExchangeRate.joins, Bool.or_assoc, Bool.or_comm (e.pair == back.pair)]
  rw [hany] at hfind
  have hedges : (t.pin code).edges = putEdge back (putEdge there t.edges) := rfl
  rw [detectDefault_eq, hedges, find?_putEdge_of hpin.2, hfind]
  cases t.edges.find? fun e ↦ e.isPin || e.joins code with
  | none => simp [hpairs, hpinned.1]
  | some e =>
    by_cases h₁ : e.pair = there.pair
    · have he := ExchangeRate.pinned_of_joins hcode (ExchangeRate.joins_iff.2 (.inl h₁))
      simp [h₁, hpairs, hpinned.1, he]
    · by_cases h₂ : e.pair = back.pair
      · have he := ExchangeRate.pinned_of_joins hcode (ExchangeRate.joins_iff.2 (.inr h₂))
        simp [h₂, hpairs.symm, hpinned.2, he]
      · simp [h₁, h₂]

theorem detectDefault_ne_neutral (t : RateTable) : t.detectDefault ≠ some .neutral := by
  intro h
  obtain ⟨e, he, hpinned⟩ := Option.map_eq_some_iff.1 h
  exact (ExchangeRate.joins_pinned (List.find?_some he)).1 hpinned

theorem detectDefault_pin_iff (t : RateTable) (code : Code) :
    (t.pin code).detectDefault = some code ↔
      code ≠ .neutral ∧
        ∀ e, t.edges.find? (fun e ↦ e.isPin || e.joins code) = some e → e.joins code := by
  by_cases hcode : code = .neutral
  · refine ⟨fun h ↦ ?_, fun h ↦ absurd hcode h.1⟩
    rw [hcode] at h
    exact absurd h (detectDefault_ne_neutral _)
  · rw [detectDefault_pin hcode]
    cases hfind : t.edges.find? fun e ↦ e.isPin || e.joins code with
    | none => simp [hcode]
    | some e =>
      have he : e.isPin ∨ e.joins code := by simpa using List.find?_some hfind
      have hiff : e.pinned = code ↔ e.joins code := by
        refine ⟨fun h ↦ ?_, ExchangeRate.pinned_of_joins hcode⟩
        exact he.elim (fun hpin ↦ h ▸ (ExchangeRate.joins_pinned hpin).2) id
      simp [hcode, hiff]

end RateTable

end Forex
