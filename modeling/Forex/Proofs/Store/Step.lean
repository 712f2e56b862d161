import Forex.Store.Basic

namespace Forex.Store

def Call.isRefresh : Call → Bool
  | currencies _ | rates _ => true
  | direct _ | reverse _ => false

def Progress.call? : Progress → Option Call
  | waiting call => some call
  | refreshed _ | found _ => none

def Progress.isRefresh : Progress → Bool
  | waiting call => call.isRefresh
  | refreshed _ => true
  | found _ => false

def withCurrencies (s : Store) (silent : Bool) (currencies : Resource Currency) : Store :=
  { s with currencies, default := if silent then s.default else none }

/-- The steps from `s` of a call that starts (`none`) or has waited, with the store that it leaves
and how the call stands then. -/
inductive Step (s : Store) : Option Call → Store → Progress → Prop
  | skipped (hbusy : s.currencies.loading = true) : Step s none s (.refreshed (.ok .skipped))
  | started (silent : Bool) (hidle : s.currencies.loading = false) :
      Step s none { s with currencies := s.currencies.begun silent }
        (.waiting (.currencies silent))
  | currenciesFailed (silent : Bool) (e : RatesError) :
      Step s (some (.currencies silent))
        (s.withCurrencies silent { s.currencies with loading := false }) (.refreshed (.error e))
  | ratesSkipped (silent : Bool) (items : List Currency) (hbusy : s.rates.loading = true) :
      Step s (some (.currencies silent))
        (s.withCurrencies silent { s.currencies with items, loading := false })
        (.refreshed (.ok .skipped))
  | ratesStarted (silent : Bool) (items : List Currency) (hidle : s.rates.loading = false) :
      Step s (some (.currencies silent))
        { s.withCurrencies silent { s.currencies with items, loading := false } with
          rates := s.rates.begun silent }
        (.waiting (.rates silent))
  | ratesFailed (silent : Bool) (e : RatesError) :
      Step s (some (.rates silent)) { s with rates := { s.rates with loading := false } }
        (.refreshed (.error e))
  | ratesArrived (silent : Bool) (items : List ExchangeRate) (now : Timestamp) :
      Step s (some (.rates silent))
        { s with
          rates := { s.rates with items, loading := false }
          default := s.baseOverride <|> RateTable.detectDefault ⟨items⟩
          refreshedAt := some now }
        (.refreshed (.ok (.loaded items.length)))
  | lookup {call? : Option Call} {progress : Progress} (pair : Resource ExchangeRate)
      (hcall : ∀ call, call? = some call → call.isRefresh = false)
      (hprogress : progress.isRefresh = false) : Step s call? { s with pair } progress

variable (s : Store)

theorem step_startRefresh (silent : Bool) :
    Step s none (s.startRefresh silent).1 (s.startRefresh silent).2 := by
  unfold startRefresh
  rw [Resource.startFetch?_eq]
  cases hbusy : s.currencies.loading with
  | true => exact .skipped hbusy
  | false => exact .started silent hbusy

theorem step_receiveCurrencies (silent : Bool) (answer : Except RatesError (List Currency)) :
    Step s (some (.currencies silent)) (s.receiveCurrencies silent answer).1
      (s.receiveCurrencies silent answer).2 := by
  cases answer with
  | error e => exact .currenciesFailed silent e
  | ok items =>
    simp only [receiveCurrencies, Resource.endFetch, Resource.startFetch?_eq]
    cases hbusy : s.rates.loading with
    | true => exact .ratesSkipped silent items hbusy
    | false => exact .ratesStarted silent items hbusy

theorem step_receiveRates (silent : Bool) (now : Timestamp)
    (answer : Except RatesError (List ExchangeRate)) :
    Step s (some (.rates silent)) (s.receiveRates now answer).1 (s.receiveRates now answer).2 := by
  cases answer with
  | error e => exact .ratesFailed silent e
  | ok items => exact .ratesArrived silent items now

theorem step_finishPairRate {call : Call} (hcall : call.isRefresh = false) (p : Pair)
    (answer : Except RatesError ExchangeRate) :
    Step s (some call) (s.finishPairRate p answer).1 (s.finishPairRate p answer).2 :=
  .lookup _ (fun _ h ↦ Option.some.inj h ▸ hcall) rfl

theorem step_startPairRate (p : Pair) : Step s none (s.startPairRate p).1 (s.startPairRate p).2 := by
  unfold startPairRate
  split
  case isTrue => exact .lookup s.pair (fun _ h ↦ nomatch h) rfl
  case isFalse => exact .lookup _ (fun _ h ↦ nomatch h) rfl

theorem step_resume (now : Timestamp) (call : Call) (answer : call.request.Answer) :
    Step s (some call) (s.resume now call answer).1 (s.resume now call answer).2 := by
  cases call with
  | currencies silent => exact s.step_receiveCurrencies silent answer
  | rates silent => exact s.step_receiveRates silent now answer
  | direct p =>
    simp only [resume, receiveDirect]
    cases usable? answer with
    | some e => exact s.step_finishPairRate rfl p _
    | none => exact .lookup s.pair (fun _ h ↦ Option.some.inj h ▸ rfl) rfl
  | reverse p =>
    simp only [resume, receiveReverse]
    cases usable? answer with
    | some e => exact s.step_finishPairRate rfl p _
    | none => exact s.step_finishPairRate rfl p _

end Forex.Store
