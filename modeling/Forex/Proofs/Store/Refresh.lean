import Forex.Proofs.Provider.SnapshotFile
import Forex.Proofs.Rate.Detect
import Forex.Proofs.Store.Step

namespace Forex

theorem RateTable.detectDefault_unsignZeros (t : RateTable) :
    t.unsignZeros.detectDefault = t.detectDefault := by
  have hpin (e : ExchangeRate) : e.unsignZeros.isPin = e.isPin := by
    have hone : e.unsignZeros.rate.SameValue .one ↔ e.rate.SameValue .one := by
      rw [Decimal.SameValue, ExchangeRate.unsignZeros, Decimal.units_unsignZero, Decimal.SameValue]
    simp only [ExchangeRate.isPin, hone]
    rfl
  rw [detectDefault_eq, detectDefault_eq, unsignZeros, List.find?_map, Option.map_map]
  simp only [Function.comp_def, hpin]
  rfl

namespace Store

section Idle

variable {σ : Type} (provider : Provider (StateM σ)) (clock : StateM σ Timestamp)

/-- How a refresh that starts on `s` in the world `w` ends: the store that it leaves, its result and
the world then. The worlds in between are those after each answer and each look at the clock. -/
inductive Refreshed (s : Store) (silent : Bool) (w : σ) :
    Store → Except RatesError FetchOutcome → σ → Prop
  | currenciesFailed {e : RatesError} {now : Timestamp} {w₁ w₂ : σ}
      (hcurrencies : (provider .currencies).run w = (.error e, w₁))
      (hclock : clock.run w₁ = (now, w₂)) :
      Refreshed s silent w
        (s.withCurrencies silent { s.currencies.begun silent with loading := false }) (.error e) w₂
  | ratesFailed {items : List Currency} {e : RatesError} {now now' : Timestamp} {w₁ w₂ w₃ w₄ : σ}
      (hcurrencies : (provider .currencies).run w = (.ok items, w₁))
      (hclock : clock.run w₁ = (now, w₂))
      (hrates : (provider .rates).run w₂ = (.error e, w₃))
      (hclock' : clock.run w₃ = (now', w₄)) :
      Refreshed s silent w
        { s.withCurrencies silent { s.currencies with items, loading := false } with
          rates := { s.rates.begun silent with loading := false } }
        (.error e) w₄
  | loaded {items : List Currency} {edges : List ExchangeRate} {now now' : Timestamp}
      {w₁ w₂ w₃ w₄ : σ}
      (hcurrencies : (provider .currencies).run w = (.ok items, w₁))
      (hclock : clock.run w₁ = (now, w₂))
      (hrates : (provider .rates).run w₂ = (.ok edges, w₃))
      (hclock' : clock.run w₃ = (now', w₄)) :
      Refreshed s silent w
        { s with
          currencies := { s.currencies with items, loading := false }
          rates := { s.rates with items := edges, loading := false }
          default := s.baseOverride <|> RateTable.detectDefault ⟨edges⟩
          refreshedAt := some now' }
        (.ok (.loaded edges.length)) w₄

variable {provider clock} {w w₁ w₂ : σ} {now : Timestamp}

theorem run_settle_waiting (call : Call) {answer : call.request.Answer}
    (hanswer : (provider call.request).run w = (answer, w₁)) (hclock : clock.run w₁ = (now, w₂))
    (n : Nat) (s : Store) :
    (settle provider clock (n + 1) (s, .waiting call)).run w =
      (settle provider clock n (s.resume now call answer)).run w₂ := by
  rw [settle, StateT.run_bind, hanswer]
  change (clock >>= fun now ↦ settle provider clock n (s.resume now call answer)).run w₁ = _
  rw [StateT.run_bind, hclock]
  rfl

theorem run_settle_currencies {answer : Except RatesError (List Currency)}
    (hanswer : (provider .currencies).run w = (answer, w₁)) (hclock : clock.run w₁ = (now, w₂))
    (n : Nat) (s : Store) (silent : Bool) :
    (settle provider clock (n + 1) (s, .waiting (.currencies silent))).run w =
      (settle provider clock n (s.receiveCurrencies silent answer)).run w₂ :=
  run_settle_waiting (.currencies silent) hanswer hclock n s

theorem run_settle_rates {answer : Except RatesError (List ExchangeRate)}
    (hanswer : (provider .rates).run w = (answer, w₁)) (hclock : clock.run w₁ = (now, w₂))
    (n : Nat) (s : Store) (silent : Bool) :
    (settle provider clock (n + 1) (s, .waiting (.rates silent))).run w =
      (settle provider clock n (s.receiveRates now answer)).run w₂ :=
  run_settle_waiting (.rates silent) hanswer hclock n s

variable {s : Store}

theorem isLoading_eq_false_iff :
    s.isLoading = false ↔ s.currencies.loading = false ∧ s.rates.loading = false :=
  Bool.or_eq_false_iff

theorem refreshed_of_idle (provider : Provider (StateM σ)) (clock : StateM σ Timestamp)
    (hidle : s.isLoading = false) (silent : Bool) (w : σ) :
    ∃ s' result w', (s.refresh provider clock silent).run w = ((s', result), w') ∧
      Refreshed provider clock s silent w s' result w' := by
  obtain ⟨hcurrencies, hrates⟩ := isLoading_eq_false_iff.1 hidle
  have hstart : s.startRefresh silent =
      ({ s with currencies := s.currencies.begun silent }, .waiting (.currencies silent)) := by
    simp [startRefresh, Resource.startFetch?_eq, hcurrencies]
  rcases hanswer : (provider .currencies).run w with ⟨answer, w₁⟩
  rcases hclock : clock.run w₁ with ⟨now, w₂⟩
  rw [refresh, hstart, StateT.run_bind, run_settle_currencies hanswer hclock]
  cases answer with
  | error e => exact ⟨_, _, _, rfl, .currenciesFailed hanswer hclock⟩
  | ok items =>
    rcases hanswer' : (provider .rates).run w₂ with ⟨answer', w₃⟩
    rcases hclock' : clock.run w₃ with ⟨now', w₄⟩
    simp only [receiveCurrencies, Resource.endFetch, Resource.startFetch?_eq, hrates]
    rw [if_neg Bool.false_ne_true, run_settle_rates hanswer' hclock']
    cases answer' with
    | error e => exact ⟨_, _, _, rfl, .ratesFailed hanswer hclock hanswer' hclock'⟩
    | ok edges => exact ⟨_, _, _, rfl, .loaded hanswer hclock hanswer' hclock'⟩

end Idle

variable {f : SnapshotFile} {w : World} {snapshot : Snapshot} {s : Store}

theorem run_settle (h : f.Holds w snapshot) (n : Nat) (s : Store) (call : Call) :
    (settle (f.provider World.host) World.host.clock (n + 1) (s, .waiting call)).run w =
      (settle (f.provider World.host) World.host.clock n
        (s.resume w.now call (SnapshotFile.answer snapshot call.request))).run w := by
  have hclock : World.host.clock.run w = (w.now, w) := rfl
  exact run_settle_waiting call (h.run_provider call.request) hclock n s

theorem exists_refresh (h : f.Holds w snapshot) (hidle : s.isLoading = false) (silent : Bool) :
    ∃ s' outcome,
      (s.refresh (f.provider World.host) World.host.clock silent).run w =
        ((s', .ok outcome), w) ∧
      s'.default = (s.baseOverride <|> RateTable.detectDefault ⟨snapshot.exchangeRates⟩) := by
  have hclock (w : World) : World.host.clock.run w = (w.now, w) := rfl
  obtain ⟨s', result, w', hrun, hrefreshed⟩ :=
    refreshed_of_idle (f.provider World.host) World.host.clock hidle silent w
  cases hrefreshed with
  | currenciesFailed hanswer => cases (h.run_provider _).symm.trans hanswer
  | ratesFailed hanswer htime hanswer' =>
    cases (h.run_provider _).symm.trans hanswer
    cases (hclock _).symm.trans htime
    cases (h.run_provider _).symm.trans hanswer'
  | loaded hanswer htime hanswer' htime' =>
    cases (h.run_provider _).symm.trans hanswer
    cases (hclock _).symm.trans htime
    cases (h.run_provider _).symm.trans hanswer'
    cases (hclock _).symm.trans htime'
    exact ⟨_, _, hrun, rfl⟩

end Store

end Forex
