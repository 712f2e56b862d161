import Forex.Proofs.History
import Forex.Resource.Traffic

namespace Forex.Resource.Traffic

variable {α ε : Type}

def inFlight (t : Traffic α) : Nat := t.lists + t.items

def Ends (t : Traffic α) : Event α ε → Prop
  | .endList _ => 0 < t.lists
  | .endItem _ => 0 < t.items
  | .startList _ | .startItem => False

inductive Step (t : Traffic α) : Event α ε → Traffic α → Prop
  | skipped (silent : Bool) (hbusy : t.resource.loading = true) : Step t (.startList silent) t
  | listStarted (silent : Bool) (hidle : t.resource.loading = false) :
      Step t (.startList silent)
        { t with resource := t.resource.begun silent, lists := t.lists + 1 }
  | itemStarted :
      Step t .startItem { t with resource := t.resource.startSelect, items := t.items + 1 }
  | listEnded (answer : Except ε (List α)) (hlists : 0 < t.lists) :
      Step t (.endList answer)
        { t with resource := (t.resource.endFetch answer).1, lists := t.lists - 1 }
  | itemEnded (answer : Except ε α) (hitems : 0 < t.items) :
      Step t (.endItem answer)
        { t with resource := (t.resource.endSelect answer).1, items := t.items - 1 }
  | listLost (answer : Except ε (List α)) (hlists : t.lists = 0) : Step t (.endList answer) t
  | itemLost (answer : Except ε α) (hitems : t.items = 0) : Step t (.endItem answer) t

variable {t t' : Traffic α} {e : Event α ε}

theorem step_spec (t : Traffic α) (e : Event α ε) : Step t e (t.step e) := by
  cases e with
  | startList silent =>
    simp only [step, startFetch?_eq]
    cases hbusy : t.resource.loading with
    | true => exact .skipped silent hbusy
    | false => exact .listStarted silent hbusy
  | startItem => exact .itemStarted
  | endList answer =>
    by_cases hlists : t.lists = 0
    · rw [step, if_pos hlists]
      exact .listLost answer hlists
    · rw [step, if_neg hlists]
      exact .listEnded answer (Nat.pos_of_ne_zero hlists)
  | endItem answer =>
    by_cases hitems : t.items = 0
    · rw [step, if_pos hitems]
      exact .itemLost answer hitems
    · rw [step, if_neg hitems]
      exact .itemEnded answer (Nat.pos_of_ne_zero hitems)

theorem loading_endFetch (r : Resource α) (answer : Except ε (List α)) :
    (r.endFetch answer).1.loading = false := by
  cases answer <;> rfl

theorem loading_endSelect (r : Resource α) (answer : Except ε α) :
    (r.endSelect answer).1.loading = false := by
  cases answer <;> rfl

/-- An event changes nothing, or it starts a load and sets the mark, or it ends one and clears the
mark. -/
theorem Step.mark (hs : Step t e t') :
    (t' = t ∧ ¬t.Ends e) ∨
    (t'.resource.loading = true ∧ t'.inFlight = t.inFlight + 1 ∧ ¬t.Ends e) ∨
    (t'.resource.loading = false ∧ t.inFlight = t'.inFlight + 1 ∧ t.Ends e) := by
  cases hs with
  | skipped silent hbusy => exact .inl ⟨rfl, id⟩
  | listLost answer hlists => exact .inl ⟨rfl, by simp [Ends, hlists]⟩
  | itemLost answer hitems => exact .inl ⟨rfl, by simp [Ends, hitems]⟩
  | listStarted silent hidle => exact .inr (.inl ⟨rfl, Nat.add_right_comm _ _ _, id⟩)
  | itemStarted => exact .inr (.inl ⟨rfl, rfl, id⟩)
  | listEnded answer hlists =>
    refine .inr (.inr ⟨loading_endFetch _ _, ?_, hlists⟩)
    simp only [inFlight]
    omega
  | itemEnded answer hitems =>
    refine .inr (.inr ⟨loading_endSelect _ _, ?_, hitems⟩)
    simp only [inFlight]
    omega

theorem Step.inFlight_pos (h : t.resource.loading = true → 0 < t.inFlight) (hs : Step t e t')
    (hloading : t'.resource.loading = true) : 0 < t'.inFlight := by
  rcases hs.mark with ⟨rfl, -⟩ | ⟨-, hmore, -⟩ | ⟨hclear, -, -⟩
  · exact h hloading
  · omega
  · rw [hclear] at hloading
    cases hloading

/-- The mark is set if a load is in flight. -/
def Remembers (t : Traffic α) : Prop := 0 < t.inFlight → t.resource.loading = true

theorem Step.remembers_iff (h : t.Remembers) (hs : Step t e t') :
    t'.Remembers ↔ (t.Ends e → t.inFlight = 1) := by
  unfold Remembers
  rcases hs.mark with ⟨rfl, hend⟩ | ⟨hset, -, hend⟩ | ⟨hclear, hless, hend⟩
  · exact ⟨fun _ he ↦ absurd he hend, fun _ ↦ h⟩
  · exact ⟨fun _ he ↦ absurd he hend, fun _ _ ↦ hset⟩
  · rw [hclear]
    constructor
    · intro hremembers _
      have hnone : ¬0 < t'.inFlight := fun hpos ↦ nomatch hremembers hpos
      omega
    · intro hone hpos
      have hlast := hone hend
      omega

theorem Remembers.inFlight_eq_zero (h : t.Remembers) (hidle : t.resource.loading = false) :
    t.inFlight = 0 := by
  refine Nat.eq_zero_of_not_pos fun hpos ↦ ?_
  rw [h hpos] at hidle
  cases hidle

theorem Step.lists_le_one (hmark : t.Remembers) (h : t.lists ≤ 1) (hs : Step t e t') :
    t'.lists ≤ 1 := by
  cases hs with
  | listStarted silent hidle =>
    have hnone := hmark.inFlight_eq_zero hidle
    simp only [inFlight] at hnone ⊢
    omega
  | listEnded => exact Nat.le_trans (Nat.sub_le _ _) h
  | skipped | itemStarted | itemEnded | listLost | itemLost => exact h

structure ListsOnly (t : Traffic α) : Prop where
  items : t.items = 0
  lists : t.lists ≤ 1
  remembers : t.Remembers

theorem ListsOnly.step (h : t.ListsOnly) (hs : Step t e t') (he : e ≠ .startItem) :
    t'.ListsOnly := by
  have hone := hs.lists_le_one h.remembers h.lists
  cases hs with
  | skipped | listLost | itemLost => exact h
  | listStarted silent hidle => exact ⟨h.items, hone, fun _ ↦ rfl⟩
  | itemStarted => exact absurd rfl he
  | listEnded answer hlists =>
    refine ⟨h.items, hone, fun hpos ↦ ?_⟩
    have hitems := h.items
    have hlists := h.lists
    simp only [inFlight] at hpos
    omega
  | itemEnded answer hitems =>
    have hnone := h.items
    omega

def NeverForgets (events : List (Event α ε)) : Prop :=
  ∀ before, before <+: events → (run {} before).Remembers

theorem inFlight_pos_of_loading (events : List (Event α ε))
    (h : (run {} events).resource.loading = true) : 0 < (run {} events).inFlight := by
  have hrun := History.throughout_induct
    (P := fun t : Traffic α ↦ t.resource.loading = true → 0 < t.inFlight) (b := {})
    (fun h ↦ nomatch h) (fun _ e _ h ↦ (step_spec _ e).inFlight_pos h) events List.prefix_rfl
  exact hrun h

theorem neverForgets_iff (events : List (Event α ε)) :
    NeverForgets events ↔ ∀ before e, before ++ [e] <+: events →
      (run {} before).Ends e → (run {} before).inFlight = 1 := by
  refine History.throughout_iff (P := Remembers) (Q := fun t e ↦ Ends t e → inFlight t = 1)
    ?_ (fun _ h ↦ h) ?_ ?_ events
  · exact nofun
  · exact fun t e h ↦ ((step_spec t e).remembers_iff h).1
  · exact fun t e h ↦ ((step_spec t e).remembers_iff h).2

theorem NeverForgets.lists_le_one {events : List (Event α ε)} (h : NeverForgets events) :
    ∀ before, before <+: events → (run {} before).lists ≤ 1 :=
  History.throughout_induct (P := fun t : Traffic α ↦ t.lists ≤ 1) (Nat.zero_le 1)
    fun before e hpre hone ↦
      (step_spec _ e).lists_le_one (h before ((List.prefix_append before [e]).trans hpre)) hone

theorem neverForgets_of_lists {events : List (Event α ε)} (h : ∀ e ∈ events, e ≠ .startItem) :
    NeverForgets events := by
  intro before hpre
  have hlists := History.throughout_induct (P := ListsOnly) (b := {})
    ⟨rfl, Nat.zero_le 1, nofun⟩
    (fun before e hpre hlists ↦
      hlists.step (step_spec _ e) (h e (hpre.subset (List.mem_append_right before (.head _)))))
    before hpre
  exact hlists.remembers

/-- The mark is never set without a load in flight. No load in flight is forgotten throughout a run
exactly if every load that ends is the only one in flight then; in such a run a load of the list
starts only when no other load is in flight, and two of them never overlap. Runs that load lists
only are of this kind. -/
theorem loading_of_inFlight_iff (events : List (Event α ε)) :
    ((run {} events).resource.loading = true → 0 < (run {} events).inFlight) ∧
    (NeverForgets events ↔ ∀ before e, before ++ [e] <+: events →
      (run {} before).Ends e → (run {} before).inFlight = 1) ∧
    (NeverForgets events → ∀ before, before <+: events → (run {} before).lists ≤ 1 ∧
      ∀ silent, ((run {} before).resource.startFetch? silent).isSome →
        (run {} before).inFlight = 0) ∧
    ((∀ e ∈ events, e ≠ .startItem) → NeverForgets events) := by
  refine ⟨inFlight_pos_of_loading events, neverForgets_iff events, fun h before hpre ↦ ?_,
    neverForgets_of_lists⟩
  refine ⟨h.lists_le_one before hpre, fun silent hstart ↦ (h before hpre).inFlight_eq_zero ?_⟩
  rw [startFetch?_eq] at hstart
  by_contra hbusy
  simp [hbusy] at hstart

def oneByOne : List (Event Nat String) :=
  [.startList false, .startList true, .endList (.ok [1]), .startItem]

theorem loading_of_inFlight_iff_oneByOne :
    NeverForgets oneByOne ∧ (run {} oneByOne).resource.loading = true ∧
      0 < (run {} oneByOne).inFlight ∧ (run {} oneByOne).lists ≤ 1 := by
  have hends : ∀ before e, before ++ [e] <+: oneByOne →
      (run {} before).Ends e → (run {} before).inFlight = 1 := by
    unfold oneByOne run
    simp only [History.forall_events_cons (Q := fun t e ↦ Ends t e → inFlight t = 1)]
    refine ⟨nofun, nofun, fun _ ↦ rfl, nofun, ?_⟩
    simp
  have hnever := (loading_of_inFlight_iff oneByOne).2.1.2 hends
  have hloading : (run {} oneByOne).resource.loading = true := rfl
  exact ⟨hnever, hloading, (loading_of_inFlight_iff oneByOne).1 hloading,
    ((loading_of_inFlight_iff oneByOne).2.2.1 hnever _ List.prefix_rfl).1⟩

def itemBetween : List (Event Nat String) := [.startList false, .startItem, .endItem (.ok 7)]

/-- The arrival of the item clears the mark, and the list is loaded twice at the same time. -/
theorem list_forgotten_after_itemBetween :
    (run {} itemBetween).resource.loading = false ∧ (run {} itemBetween).inFlight = 1 ∧
      (run {} (itemBetween ++ [.startList false])).lists = 2 :=
  ⟨rfl, rfl, rfl⟩

end Forex.Resource.Traffic
