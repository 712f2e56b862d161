import Forex.Proofs.History
import Forex.Proofs.Store.Traffic
import Mathlib.Data.List.Nodup

namespace Forex

def Request.IsList (q : Request) : Prop := q = .currencies ∨ q = .rates

namespace Store

variable {s s' : Store} {call? : Option Call} {progress : Progress} {q : Request}

def marked (s : Store) : Request → Bool
  | .currencies => s.currencies.loading
  | .rates => s.rates.loading
  | .rate _ => s.pair.loading

def asks (call? : Option Call) (q : Request) : Nat := call?.toList.countP (·.request == q)

theorem asks_of_lookup (hcall : ∀ call, call? = some call → call.isRefresh = false)
    (hq : q.IsList) : asks call? q = 0 := by
  rcases hq with rfl | rfl <;> cases call? with
  | none => rfl
  | some call =>
    cases call with
    | currencies | rates => cases hcall _ rfl
    | direct | reverse => rfl

theorem Progress.isRefresh_of_call? (h : progress.isRefresh = false) :
    ∀ call, progress.call? = some call → call.isRefresh = false := by
  intro call hcall
  cases progress with
  | waiting => exact Option.some.inj hcall ▸ h
  | refreshed | found => cases hcall

theorem Step.marked_add (hs : Step s call? s' progress) (hq : q.IsList)
    (hmarked : 0 < asks call? q → s.marked q = true) :
    (s'.marked q).toNat + asks call? q = (s.marked q).toNat + asks progress.call? q := by
  cases hs with
  | skipped => rfl
  | started silent hidle =>
    rcases hq with rfl | rfl
    · have hclear : s.marked .currencies = false := hidle
      rw [hclear]
      rfl
    · rfl
  | currenciesFailed | ratesSkipped =>
    rcases hq with rfl | rfl
    · rw [hmarked Nat.one_pos]
      rfl
    · rfl
  | ratesStarted silent items hidle =>
    rcases hq with rfl | rfl
    · rw [hmarked Nat.one_pos]
      rfl
    · have hclear : s.marked .rates = false := hidle
      rw [hclear]
      rfl
  | ratesFailed | ratesArrived =>
    rcases hq with rfl | rfl
    · rfl
    · rw [hmarked Nat.one_pos]
      rfl
  | lookup pair hcall hprogress =>
    rw [asks_of_lookup hcall hq, asks_of_lookup (Progress.isRefresh_of_call? hprogress) hq]
    rcases hq with rfl | rfl <;> rfl

theorem Step.eq_of_lookup {call : Call} (hs : Step s (some call) s' progress)
    (hcall : call.isRefresh = false) : ∃ pair, s' = { s with pair } := by
  cases hs with
  | lookup pair => exact ⟨pair, rfl⟩
  | currenciesFailed | ratesSkipped | ratesStarted | ratesFailed | ratesArrived => cases hcall

theorem exists_startPairRate (s : Store) (p : Pair) :
    ∃ pair, (s.startPairRate p).1 = { s with pair } := by
  unfold startPairRate
  split
  case isTrue => exact ⟨s.pair, rfl⟩
  case isFalse => exact ⟨s.pair.startSelect, rfl⟩

namespace Traffic

variable {t t' : Traffic} {n : Nat} {e : Event}

theorem countP_eq_filter_add {calls : List (Nat × Call)} (h : (calls.map (·.1)).Nodup) (n : Nat)
    (q : Request) :
    calls.countP (·.2.request == q) =
      (calls.filter (·.1 != n)).countP (·.2.request == q) + asks (calls.lookup n) q := by
  induction calls with
  | nil => rfl
  | cons x calls ih =>
    obtain ⟨k, call⟩ := x
    rw [List.map_cons, List.nodup_cons] at h
    have htail := ih h.2
    by_cases hk : n = k
    · subst hk
      have hnone : calls.lookup n = none := by
        refine List.lookup_eq_none_iff.2 fun x hx ↦ ?_
        have hne : n ≠ x.1 := fun hx' ↦ h.1 (List.mem_map.2 ⟨x, hx, hx'.symm⟩)
        simpa using hne
      rw [hnone] at htail
      simp [asks, List.countP_cons, htail]
    · have hne : (n == k) = false := by simpa using hk
      simp [List.countP_cons, List.lookup_cons, hne, Ne.symm hk, htail, Nat.add_right_comm]

/-- The call that moves has asked one question less, and perhaps one more. -/
theorem Moves.outstanding_add (h : (t.waiting.map (·.1)).Nodup) (hm : t.Moves n progress t')
    (q : Request) :
    t'.outstanding q + asks (t.waiting.lookup n) q = t.outstanding q + asks progress.call? q := by
  have hnew : ((progress.call?.map (n, ·)).toList).countP (·.2.request == q) =
      asks progress.call? q := by
    cases progress.call? <;> rfl
  unfold outstanding
  rw [hm.waiting, List.countP_append, hnew, countP_eq_filter_add h n q]
  omega

theorem Moves.nodup_numbers (h : (t.waiting.map (·.1)).Nodup) (hm : t.Moves n progress t') :
    (t'.waiting.map (·.1)).Nodup := by
  have hothers : ((t.waiting.filter (·.1 != n)).map (·.1)).Nodup :=
    h.sublist (List.filter_sublist.map _)
  rw [hm.waiting, List.map_append]
  refine hothers.append ?_ ?_
  · cases progress.call? <;> simp
  · cases progress.call? <;> simp

/-- The calls that wait have different numbers, and each list is marked once for each request for it
that is in flight. -/
structure SingleFlight (t : Traffic) : Prop where
  nodup : (t.waiting.map (·.1)).Nodup
  outstanding : ∀ q : Request, q.IsList → t.outstanding q = (t.store.marked q).toNat

theorem SingleFlight.moves (h : t.SingleFlight) (hm : t.Moves n progress t') :
    t'.SingleFlight where
  nodup := hm.nodup_numbers h.nodup
  outstanding q hq := by
    have hcount := hm.outstanding_add h.nodup q
    have hbefore := h.outstanding q hq
    -- What the call asks for is in flight, so the mark that its answer clears is set.
    have hmarked (hasks : 0 < asks (t.waiting.lookup n) q) : t.store.marked q = true := by
      have hpos : 0 < t.outstanding q := by
        unfold Traffic.outstanding
        rw [countP_eq_filter_add h.nodup n q]
        omega
      rw [hbefore] at hpos
      exact Bool.toNat_eq_one.1 (by have := Bool.toNat_le (t.store.marked q); omega)
    have hmarks := hm.step.marked_add hq hmarked
    omega

theorem singleFlight_of_idle (hidle : ∀ q : Request, q.IsList → s.marked q = false) :
    ({ store := s } : Traffic).SingleFlight where
  nodup := List.nodup_nil
  outstanding q hq := by
    rw [hidle q hq]
    rfl

theorem SingleFlight.run (h : t.SingleFlight) (ht : t.Numbered) (events : List Event) :
    (t.run events).SingleFlight :=
  run_induct (fun _ _ _ _ _ h hm ↦ h.moves hm) ht h events

/-- In a run from `t` a waiting call got this payload for its question. -/
def Delivered (t : Traffic) (events : List Event) (q : Request) (payload : q.Payload) : Prop :=
  ∃ before number provider now call, before ++ [.answer number provider now] <+: events ∧
    (t.run before).waiting.lookup number = some call ∧ call.request = q ∧
      provider q = .ok payload

/-- What a store keeps of the answers to a question is empty or the payload of one of them, if it is
empty at first and every event leaves it, empties it or replaces it by the payload that arrives. -/
theorem delivered_of_step (items : Store → q.Payload) {empty : q.Payload}
    (hstart : items t.store = empty)
    (hstep : ∀ (t : Traffic) e, items (t.step e).1.store = empty ∨
      items (t.step e).1.store = items t.store ∨
      ∃ number provider now call, e = .answer number provider now ∧
        t.waiting.lookup number = some call ∧ call.request = q ∧
          provider q = .ok (items (t.step e).1.store))
    (events : List Event) :
    items (t.run events).store = empty ∨ t.Delivered events q (items (t.run events).store) := by
  refine History.throughout_induct
    (P := fun t' : Traffic ↦ items t'.store = empty ∨ t.Delivered events q (items t'.store))
    (.inl hstart) ?_ events List.prefix_rfl
  intro before e hpre hitems
  rcases hstep (t.run before) e with hempty | hsame | ⟨number, provider, now, call, rfl, harrived⟩
  · exact .inl hempty
  · refine hitems.imp hsame.trans fun hdelivered ↦ ?_
    exact hsame.symm ▸ hdelivered
  · exact .inr ⟨before, number, provider, now, call, hpre, harrived⟩

def IsLookup (t : Traffic) : Event → Prop
  | .refresh _ => False
  | .pairRate _ => True
  | .answer number _ _ => ∃ call, t.waiting.lookup number = some call ∧ call.isRefresh = false

theorem IsLookup.exists_store (h : t.IsLookup e) :
    ∃ pair, (t.step e).1.store = { t.store with pair } := by
  cases e with
  | refresh silent => cases h
  | pairRate p =>
    obtain ⟨pair, hpair⟩ := t.store.exists_startPairRate p
    exact ⟨pair, (store_note _ _).trans hpair⟩
  | answer number provider now =>
    obtain ⟨call, hcall, hlookup⟩ := h
    have hstep := t.store.step_resume now call (provider call.request)
    obtain ⟨pair, hpair⟩ := hstep.eq_of_lookup hlookup
    refine ⟨pair, Eq.trans ?_ hpair⟩
    simp only [step, hcall, store_note]

theorem store_step (t : Traffic) (e : Event) :
    (∃ pair, (t.step e).1.store = { t.store with pair }) ∨
    (∃ silent, (t.step e).1.store = (t.store.startRefresh silent).1) ∨
    (∃ number provider now silent, e = .answer number provider now ∧
      t.waiting.lookup number = some (.currencies silent) ∧
      (t.step e).1.store = (t.store.receiveCurrencies silent (provider .currencies)).1) ∨
    (∃ number provider now silent, e = .answer number provider now ∧
      t.waiting.lookup number = some (.rates silent) ∧
      (t.step e).1.store = (t.store.receiveRates now (provider .rates)).1) := by
  cases e with
  | refresh silent => exact .inr (.inl ⟨silent, store_note _ _⟩)
  | pairRate p => exact .inl (IsLookup.exists_store (e := .pairRate p) trivial)
  | answer number provider now =>
    cases hcall : t.waiting.lookup number with
    | none => exact .inl ⟨t.store.pair, by simp only [step, hcall]⟩
    | some call =>
      have hstore : (t.step (.answer number provider now)).1.store =
          (t.store.resume now call (provider call.request)).1 := by
        simp only [step, hcall, store_note]
      cases call with
      | currencies silent =>
        exact .inr (.inr (.inl ⟨number, provider, now, silent, rfl, hcall, hstore⟩))
      | rates silent =>
        exact .inr (.inr (.inr ⟨number, provider, now, silent, rfl, hcall, hstore⟩))
      | direct | reverse =>
        exact .inl (IsLookup.exists_store (e := .answer number provider now) ⟨_, hcall, rfl⟩)

theorem currencies_step (t : Traffic) (e : Event) :
    (t.step e).1.store.currencies.items = [] ∨
    (t.step e).1.store.currencies.items = t.store.currencies.items ∨
    ∃ number provider now call, e = .answer number provider now ∧
      t.waiting.lookup number = some call ∧ call.request = .currencies ∧
        provider .currencies = .ok (t.step e).1.store.currencies.items := by
  rcases store_step t e with ⟨pair, hs⟩ | ⟨silent, hs⟩ |
    ⟨number, provider, now, silent, he, hcall, hs⟩ | ⟨number, provider, now, silent, -, -, hs⟩
  · rw [hs]
    exact .inr (.inl rfl)
  · rw [hs, startRefresh, Resource.startFetch?_eq]
    cases t.store.currencies.loading with
    | true => exact .inr (.inl rfl)
    | false =>
      cases silent with
      | true => exact .inr (.inl rfl)
      | false => exact .inl rfl
  · rw [hs]
    cases ho : provider .currencies with
    | error => exact .inr (.inl rfl)
    | ok items =>
      refine .inr (.inr ⟨number, provider, now, _, he, hcall, rfl, ?_⟩)
      simp only [receiveCurrencies, Resource.endFetch, Resource.startFetch?_eq]
      rw [ho]
      cases t.store.rates.loading <;> rfl
  · rw [hs]
    cases provider .rates <;> exact .inr (.inl rfl)

theorem rates_step (t : Traffic) (e : Event) :
    (t.step e).1.store.rates.items = [] ∨
    (t.step e).1.store.rates.items = t.store.rates.items ∨
    ∃ number provider now call, e = .answer number provider now ∧
      t.waiting.lookup number = some call ∧ call.request = .rates ∧
        provider .rates = .ok (t.step e).1.store.rates.items := by
  rcases store_step t e with ⟨pair, hs⟩ | ⟨silent, hs⟩ | ⟨number, provider, now, silent, -, -, hs⟩ |
    ⟨number, provider, now, silent, he, hcall, hs⟩
  · rw [hs]
    exact .inr (.inl rfl)
  · rw [hs, startRefresh, Resource.startFetch?_eq]
    cases t.store.currencies.loading <;> exact .inr (.inl rfl)
  · rw [hs]
    cases provider .currencies with
    | error => exact .inr (.inl rfl)
    | ok items =>
      simp only [receiveCurrencies, Resource.endFetch, Resource.startFetch?_eq]
      cases t.store.rates.loading with
      | true => exact .inr (.inl rfl)
      | false =>
        cases silent with
        | true => exact .inr (.inl rfl)
        | false => exact .inl rfl
  · rw [hs]
    cases ho : provider .rates with
    | error => exact .inr (.inl rfl)
    | ok items => exact .inr (.inr ⟨number, provider, now, _, he, hcall, rfl, ho⟩)

/-- However calls overlap on a new store, each list has at most one request in flight, the store is
loading exactly while there is one, each list is empty or the payload of one answer, and no step of
a pair lookup changes the lists, the default, the time of the refresh or whether the store is
loading. -/
theorem single_flight (base : Option String) (displayPrecision : UInt32) (events : List Event)
    {t : Traffic} (ht : run { store := withPricing base displayPrecision } events = t) :
    t.outstanding .currencies ≤ 1 ∧ t.outstanding .rates ≤ 1 ∧
    (t.store.isLoading = true ↔ t.outstanding .currencies = 1 ∨ t.outstanding .rates = 1) ∧
    (t.store.currencies.items = [] ∨
      Delivered { store := withPricing base displayPrecision } events .currencies
        t.store.currencies.items) ∧
    (t.store.rates.items = [] ∨
      Delivered { store := withPricing base displayPrecision } events .rates t.store.rates.items) ∧
    ∀ e, t.IsLookup e →
      (t.step e).1.store.currencies = t.store.currencies ∧
      (t.step e).1.store.rates = t.store.rates ∧
      (t.step e).1.store.default = t.store.default ∧
      (t.step e).1.store.refreshedAt = t.store.refreshedAt ∧
      (t.step e).1.store.isLoading = t.store.isLoading := by
  subst ht
  have hidle : ∀ q : Request, q.IsList → (withPricing base displayPrecision).marked q = false := by
    rintro q (rfl | rfl) <;> rfl
  have hflight := (singleFlight_of_idle hidle).run (numbered_of_idle _) events
  have hcurrencies := hflight.outstanding .currencies (.inl rfl)
  have hrates := hflight.outstanding .rates (.inr rfl)
  refine ⟨?_, ?_, ?_, delivered_of_step (q := .currencies) (·.currencies.items) rfl currencies_step
    events, delivered_of_step (q := .rates) (·.rates.items) rfl rates_step events, fun e he ↦ ?_⟩
  · rw [hcurrencies]
    exact Bool.toNat_le _
  · rw [hrates]
    exact Bool.toNat_le _
  · rw [hcurrencies, hrates, Bool.toNat_eq_one, Bool.toNat_eq_one]
    exact Bool.or_eq_true _ _ ▸ Iff.rfl
  · obtain ⟨pair, hs⟩ := he.exists_store
    rw [hs]
    exact ⟨rfl, rfl, rfl, rfl, rfl⟩

def loneAnswers : (q : Request) → q.Answer
  | .currencies => .ok [.neutral]
  | .rates => .ok []
  | .rate p => .error (.rateUnavailable p)

def lookupInRefresh : List Event := [
  .refresh false, .pairRate ⟨.ofText "USD", .ofText "EUR"⟩, .answer 0 loneAnswers ⟨1⟩]

theorem single_flight_lookupInRefresh :
    (run { store := withPricing none 2 } lookupInRefresh).store.isLoading = true ∧
    (run { store := withPricing none 2 }
      (lookupInRefresh ++ [.answer 1 loneAnswers ⟨2⟩])).store.isLoading = true := by
  have hflight := single_flight none 2 lookupInRefresh rfl
  have hloading := hflight.2.2.1.2 (.inr rfl)
  have hstep := hflight.2.2.2.2.2 (.answer 1 loneAnswers ⟨2⟩) ⟨_, rfl, rfl⟩
  exact ⟨hloading, hstep.2.2.2.2.trans hloading⟩

end Traffic

end Store

end Forex
