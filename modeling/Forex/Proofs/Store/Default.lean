import Forex.Proofs.Store.Traffic
import Mathlib.Data.Option.Basic

namespace Forex.Store

variable {s s' : Store} {call? : Option Call} {progress : Progress}

/-- The default is the base set for the store, or else the one that the table shows. -/
def Coherent (s : Store) : Prop :=
  ∀ d, s.default = some d → s.baseOverride = some d ∨ s.table.detectDefault = some d

theorem Coherent.of_kept (h : s.Coherent) {silent : Bool} {d : Code}
    (hd : (if silent then s.default else none) = some d) :
    silent = true ∧ (s.baseOverride = some d ∨ s.table.detectDefault = some d) := by
  cases silent with
  | true => exact ⟨rfl, h d hd⟩
  | false => cases hd

theorem Step.coherent (h : s.Coherent) (hs : Step s call? s' progress) : s'.Coherent := by
  intro d hd
  cases hs with
  | skipped | started | ratesFailed | lookup => exact h d hd
  | currenciesFailed | ratesSkipped => exact (h.of_kept hd).2
  | ratesStarted silent items =>
    -- The step that clears the list forgets the default too.
    obtain ⟨rfl, hd'⟩ := h.of_kept hd
    exact hd'
  | ratesArrived => exact ((Option.orElse_eq_some _ _ _).1 hd).imp id And.right

theorem Step.baseOverride_eq (hs : Step s call? s' progress) :
    s'.baseOverride = s.baseOverride := by
  cases hs <;> rfl

theorem of_converter_eq_ok {c : Converter} (h : s.converter = .ok c) :
    s.default = some c.base ∧ c.rates = s.table := by
  unfold converter at h
  cases hd : s.default with
  | none =>
    rw [hd] at h
    cases h
  | some base =>
    rw [hd] at h
    obtain rfl := Except.ok.inj h
    exact ⟨rfl, rfl⟩

def afterEvents (s : Store) (events : List Event) : Store := (Traffic.run { store := s } events).store

theorem Coherent.afterEvents (h : s.Coherent) (events : List Event) :
    (s.afterEvents events).Coherent ∧ (s.afterEvents events).baseOverride = s.baseOverride := by
  refine Traffic.run_induct (t := { store := s })
    (P := fun t ↦ t.store.Coherent ∧ t.store.baseOverride = s.baseOverride)
    ?_ (Traffic.numbered_of_idle s) ⟨h, rfl⟩ events
  rintro t n progress t' - ⟨hcoherent, hbase⟩ hmoves
  exact ⟨hmoves.step.coherent hcoherent, hmoves.step.baseOverride_eq.trans hbase⟩

/-- However calls overlap on a new store, its default is the base set for it or the one that its
table shows, and the same holds of every converter and the table in it. -/
theorem default_coherent (base : Option String) (displayPrecision : UInt32) (events : List Event) :
    (∀ d, ((withPricing base displayPrecision).afterEvents events).default = some d →
      (withPricing base displayPrecision).baseOverride = some d ∨
        ((withPricing base displayPrecision).afterEvents events).table.detectDefault = some d) ∧
    ∀ c, ((withPricing base displayPrecision).afterEvents events).converter = .ok c →
      c.rates = ((withPricing base displayPrecision).afterEvents events).table ∧
        ((withPricing base displayPrecision).baseOverride = some c.base ∨
          c.rates.detectDefault = some c.base) := by
  have hnew : (withPricing base displayPrecision).Coherent := fun _ hd ↦ nomatch hd
  obtain ⟨hcoherent, hbase⟩ := hnew.afterEvents events
  rw [← hbase]
  refine ⟨hcoherent, fun c hc ↦ ?_⟩
  obtain ⟨hdefault, hrates⟩ := of_converter_eq_ok hc
  rw [hrates]
  exact ⟨rfl, hcoherent c.base hdefault⟩

def dollarAnswers : (q : Request) → q.Answer
  | .currencies => .ok [.neutral]
  | .rates => .ok [{ pair := ⟨.ofText "USD", .neutral⟩, rate := .one }]
  | .rate p => .error (.rateUnavailable p)

def silentWaits : List Event := [
  .refresh false, .answer 0 dollarAnswers ⟨1⟩, .answer 0 dollarAnswers ⟨2⟩,
  .refresh true, .answer 1 dollarAnswers ⟨3⟩]

theorem default_coherent_silentWaits :
    ((withPricing none 2).afterEvents silentWaits).default = some (.ofText "USD") ∧
    ((withPricing none 2).baseOverride = some (.ofText "USD") ∨
      ((withPricing none 2).afterEvents silentWaits).table.detectDefault =
        some (.ofText "USD")) := by
  have hdefault : ((withPricing none 2).afterEvents silentWaits).default = some (.ofText "USD") := by
    decide +kernel
  exact ⟨hdefault, (default_coherent none 2 silentWaits).1 _ hdefault⟩

/-- Only the arrival of rates sets a default or the time of the refresh; apart from it, the default
is forgotten when currencies have been answered to a refresh that is not silent. -/
theorem Step.default_eq (hs : Step s call? s' progress)
    (harrived : ∀ count, progress ≠ .refreshed (.ok (.loaded count))) :
    s'.refreshedAt = s.refreshedAt ∧
      s'.default = if call? = some (.currencies false) then none else s.default := by
  cases hs with
  | skipped | started | ratesFailed => exact ⟨rfl, rfl⟩
  | currenciesFailed silent | ratesSkipped silent | ratesStarted silent =>
    refine ⟨rfl, ?_⟩
    cases silent <;> rfl
  | ratesArrived silent items => exact absurd rfl (harrived items.length)
  | lookup pair hcall =>
    refine ⟨rfl, (if_neg fun h ↦ ?_).symm⟩
    cases hcall _ h

namespace Traffic

variable {t t' : Traffic} {m n : Nat} {e : Event}

def Reachable (t : Traffic) : Prop := ∃ store events, run { store } events = t

def Skips (t : Traffic) (n : Nat) (events : List Event) : Prop :=
  ∃ before e, before ++ [e] <+: events ∧
    ((t.run before).step e).2 = some (n, .refreshed (.ok .skipped))

theorem Reachable.numbered (h : t.Reachable) : t.Numbered := by
  obtain ⟨store, events, rfl⟩ := h
  exact (numbered_of_idle store).run events

theorem skips_cons {events : List Event} (h : t.Skips n (e :: events)) :
    (t.step e).2 = some (n, .refreshed (.ok .skipped)) ∨ (t.step e).1.Skips n events := by
  obtain ⟨before, e', hpre, hstep⟩ := h
  cases before with
  | nil =>
    obtain rfl : e' = e := (List.cons_prefix_cons.1 hpre).1
    exact .inl hstep
  | cons x before =>
    obtain ⟨rfl, htail⟩ := List.cons_prefix_cons.1 hpre
    exact .inr ⟨before, e', htail, hstep⟩

/-- The call with number `n` has started and can no longer be skipped: it waits for rates, if it
waits at all. -/
def Past (n : Nat) (t : Traffic) : Prop :=
  n < t.started ∧ ∀ call, t.waiting.lookup n = some call → ∃ silent, call = .rates silent

theorem Past.moves_self (h : Past n t) (hm : t.Moves n progress t') :
    Past n t' ∧ progress ≠ .refreshed (.ok .skipped) := by
  have hnone {p : Progress} (hp : p.call? = none) (hself : t'.waiting.lookup n = p.call?) :
      Past n t' := by
    refine ⟨hm.lt_started, fun call hcall ↦ ?_⟩
    rw [hself, hp] at hcall
    cases hcall
  have hstep := hm.step
  have hself := hm.self
  cases hcall : t.waiting.lookup n with
  | none =>
    have hlt := h.1
    have hfresh := hm.fresh hcall
    omega
  | some call =>
    obtain ⟨silent, rfl⟩ := h.2 call hcall
    rw [hcall] at hstep
    generalize t'.store = s' at hstep
    cases hstep with
    | ratesFailed => exact ⟨hnone rfl hself, nofun⟩
    | ratesArrived => exact ⟨hnone rfl hself, nofun⟩
    | lookup pair hlookup => cases hlookup _ rfl

theorem Past.moves (h : Past n t) (hm : t.Moves m progress t') : Past n t' := by
  by_cases hmn : m = n
  · subst hmn
    exact (h.moves_self hm).1
  · have hlt := h.1
    have hle := hm.started_le
    refine ⟨by omega, ?_⟩
    rw [hm.others n (Ne.symm hmn)]
    exact h.2

theorem Past.not_skips (ht : t.Numbered) (h : Past n t) (events : List Event) :
    ¬t.Skips n events := by
  rintro ⟨before, e, -, hstep⟩
  have hpast : Past n (t.run before) :=
    run_induct (fun _ _ _ _ _ h hm ↦ h.moves hm) ht h before
  have hm := moves_of_step (ht.run before) hstep
  exact (hpast.moves_self hm).2 rfl

/-- No step of a refresh that is skipped then or later changes the time of the last refresh. Nor
does it change the default, unless it is the arrival of the currencies of a refresh that is not
silent, which forgets the default. -/
theorem default_of_skips (ht : t.Reachable) (hstep : (t.step e).2 = some (n, progress))
    {later : List Event} (hskips : t.Skips n (e :: later)) :
    (t.step e).1.store.refreshedAt = t.store.refreshedAt ∧
      (t.step e).1.store.default =
        if t.waiting.lookup n = some (.currencies false) then none else t.store.default := by
  have hm := moves_of_step ht.numbered hstep
  refine hm.step.default_eq fun count hloaded ↦ ?_
  -- A call that has loaded the rates has come to its end.
  have hpast : Past n (t.step e).1 := by
    refine ⟨hm.lt_started, fun call hcall ↦ ?_⟩
    rw [hm.self, hloaded] at hcall
    cases hcall
  rcases skips_cons hskips with hskipped | hskips
  · rw [hstep, hloaded] at hskipped
    cases hskipped
  · exact hpast.not_skips (ht.numbered.step e) later hskips

theorem default_of_skips_silentWaits :
    ((run {} silentWaits).step (.refresh false)).2 = some (2, .waiting (.currencies false)) ∧
    (run {} silentWaits).Skips 2 [.refresh false, .answer 2 dollarAnswers ⟨4⟩] ∧
    ((run {} silentWaits).step (.refresh false)).1.store.default = some (.ofText "USD") := by
  have hstep : ((run {} silentWaits).step (.refresh false)).2 =
      some (2, .waiting (.currencies false)) := rfl
  have hskips : (run {} silentWaits).Skips 2 [.refresh false, .answer 2 dollarAnswers ⟨4⟩] :=
    ⟨[.refresh false], .answer 2 dollarAnswers ⟨4⟩, List.prefix_rfl, rfl⟩
  have hkept := (default_of_skips ⟨{}, silentWaits, rfl⟩ hstep hskips).2
  exact ⟨hstep, hskips, hkept.trans (by decide +kernel)⟩

theorem default_forgotten_by_skipped :
    ((run {} (silentWaits ++ [.refresh false])).step (.answer 2 dollarAnswers ⟨4⟩)).2 =
      some (2, .refreshed (.ok .skipped)) ∧
    (run {} (silentWaits ++ [.refresh false])).store.default = some (.ofText "USD") ∧
    ((run {} (silentWaits ++ [.refresh false])).step
      (.answer 2 dollarAnswers ⟨4⟩)).1.store.default = none :=
  ⟨rfl, by decide +kernel, rfl⟩

end Traffic

end Forex.Store
