import Forex.Proofs.Store.Default
import Forex.Proofs.Store.Refresh
import Forex.Proofs.Store.SingleFlight

namespace Forex.Store

variable {s s' : Store} {events : List Event}

theorem marked_eq_false (hidle : s.isLoading = false) {q : Request} (hq : q.IsList) :
    s.marked q = false := by
  obtain ⟨hcurrencies, hrates⟩ := isLoading_eq_false_iff.1 hidle
  rcases hq with rfl | rfl
  · exact hcurrencies
  · exact hrates

theorem Call.request_ne_of_lookup {call : Call} (hcall : call.isRefresh = false) {q : Request}
    (hq : q.IsList) : call.request ≠ q := by
  rcases hq with rfl | rfl <;> cases call with
  | currencies | rates => cases hcall
  | direct | reverse => exact nofun

/-- No refresh waits for an answer after these events. -/
def Settled (s : Store) (events : List Event) : Prop :=
  ∀ x ∈ (Traffic.run { store := s } events).waiting, x.2.isRefresh = false

theorem Settled.isLoading_eq_false (h : s.Settled events) (hidle : s.isLoading = false) :
    (s.afterEvents events).isLoading = false := by
  have hflight : (Traffic.run { store := s } events).SingleFlight :=
    (Traffic.singleFlight_of_idle fun _ hq ↦ marked_eq_false hidle hq).run
      (Traffic.numbered_of_idle s) events
  have hclear {q : Request} (hq : q.IsList) : (s.afterEvents events).marked q = false := by
    have hnone : (Traffic.run { store := s } events).outstanding q = 0 := by
      refine List.countP_eq_zero.2 fun x hx ↦ ?_
      rw [beq_iff_eq]
      exact Call.request_ne_of_lookup (h x hx) hq
    have hcount := hflight.outstanding q hq
    rw [hnone] at hcount
    exact Bool.toNat_eq_zero.1 hcount.symm
  exact isLoading_eq_false_iff.2 ⟨hclear (.inl rfl), hclear (.inr rfl)⟩

section Failed

variable {σ : Type} (provider : Provider (StateM σ)) (clock : StateM σ Timestamp)

def RefusesCurrencies (w : σ) (e : RatesError) : Prop :=
  ∃ w₁, (provider .currencies).run w = (.error e, w₁)

def RefusesRates (w : σ) (items : List Currency) (e : RatesError) : Prop :=
  ∃ w₁ now w₂ w₃, (provider .currencies).run w = (.ok items, w₁) ∧ clock.run w₁ = (now, w₂) ∧
    (provider .rates).run w₂ = (.error e, w₃)

variable {provider clock} {w w' : σ} {silent : Bool} {e : RatesError} {items : List Currency}
  {result : Except RatesError FetchOutcome}

theorem RefusesRates.refused_of_given {items' : List Currency} {now : Timestamp} {w₁ w₂ : σ}
    (h : RefusesRates provider clock w items e)
    (hcurrencies : (provider .currencies).run w = (.ok items', w₁))
    (hclock : clock.run w₁ = (now, w₂)) :
    items = items' ∧ ∃ w₃, (provider .rates).run w₂ = (.error e, w₃) := by
  obtain ⟨_, _, _, w₃, hgiven, hclock', hrefused⟩ := h
  cases hcurrencies.symm.trans hgiven
  cases hclock.symm.trans hclock'
  exact ⟨rfl, w₃, hrefused⟩

namespace Refreshed

theorem eq_error_iff (h : Refreshed provider clock s silent w s' result w') :
    result = .error e ↔
      RefusesCurrencies provider w e ∨ ∃ items, RefusesRates provider clock w items e := by
  constructor
  · rintro rfl
    cases h with
    | currenciesFailed hcurrencies => exact .inl ⟨_, hcurrencies⟩
    | ratesFailed hcurrencies hclock hrates =>
      exact .inr ⟨_, _, _, _, _, hcurrencies, hclock, hrates⟩
  · rintro (⟨_, hrefused⟩ | ⟨items, hrefused⟩)
    · cases h with
      | currenciesFailed hcurrencies =>
        cases hcurrencies.symm.trans hrefused
        rfl
      | ratesFailed hcurrencies | loaded hcurrencies => cases hcurrencies.symm.trans hrefused
    · cases h with
      | currenciesFailed hcurrencies =>
        obtain ⟨_, _, _, _, hgiven, -⟩ := hrefused
        cases hcurrencies.symm.trans hgiven
      | ratesFailed hcurrencies hclock hrates =>
        obtain ⟨-, _, hrates'⟩ := hrefused.refused_of_given hcurrencies hclock
        cases hrates.symm.trans hrates'
        rfl
      | loaded hcurrencies hclock hrates =>
        obtain ⟨-, _, hrates'⟩ := hrefused.refused_of_given hcurrencies hclock
        cases hrates.symm.trans hrates'

theorem default_of_error (h : Refreshed provider clock s false w s' (.error e) w') :
    s'.default = none := by
  cases h with
  | currenciesFailed | ratesFailed => rfl

theorem currencies_of_refused (h : Refreshed provider clock s false w s' result w')
    (hrefused : RefusesCurrencies provider w e) : s'.currencies.items = [] := by
  obtain ⟨_, hrefused⟩ := hrefused
  cases h with
  | currenciesFailed => rfl
  | ratesFailed hcurrencies | loaded hcurrencies => cases hcurrencies.symm.trans hrefused

theorem lists_of_refused (h : Refreshed provider clock s false w s' result w')
    (hrefused : RefusesRates provider clock w items e) :
    s'.currencies.items = items ∧ s'.rates.items = [] := by
  obtain rfl : result = .error e := h.eq_error_iff.2 (.inr ⟨items, hrefused⟩)
  cases h with
  | currenciesFailed hcurrencies =>
    obtain ⟨_, _, _, _, hgiven, -⟩ := hrefused
    cases hcurrencies.symm.trans hgiven
  | ratesFailed hcurrencies hclock =>
    exact ⟨(hrefused.refused_of_given hcurrencies hclock).1.symm, rfl⟩

end Refreshed

end Failed

theorem converter_of_no_default (h : s.default = none) :
    s.converter = .error .noDefaultCurrency := by
  rw [converter, h]

/-- Whatever has been done on an idle store, a refresh that is not silent fails exactly if a request
of it is refused, when no other refresh waits. It leaves no default then, and no converter is to be
had. If the currencies were refused, the list of currencies is empty; if the rates were refused, the
table is empty, and the currencies are those that have just been answered. -/
theorem failed_refresh (hidle : s.isLoading = false) (hsettled : s.Settled events) {σ : Type}
    (provider : Provider (StateM σ)) (clock : StateM σ Timestamp) (w : σ) :
    ∃ s' result w',
      ((s.afterEvents events).refresh provider clock false).run w = ((s', result), w') ∧
      ∀ e,
        (result = .error e ↔
          RefusesCurrencies provider w e ∨ ∃ items, RefusesRates provider clock w items e) ∧
        (result = .error e → s'.default = none ∧ s'.converter = .error .noDefaultCurrency) ∧
        (RefusesCurrencies provider w e → s'.currencies.items = []) ∧
        ∀ items, RefusesRates provider clock w items e →
          s'.currencies.items = items ∧ s'.table.edges = [] := by
  obtain ⟨s', result, w', hrun, hrefreshed⟩ :=
    refreshed_of_idle provider clock (hsettled.isLoading_eq_false hidle) false w
  refine ⟨s', result, w', hrun, fun e ↦ ⟨hrefreshed.eq_error_iff, ?_,
    hrefreshed.currencies_of_refused, fun items ↦ hrefreshed.lists_of_refused⟩⟩
  rintro rfl
  have hdefault := hrefreshed.default_of_error
  exact ⟨hdefault, converter_of_no_default hdefault⟩

def oneRefresh : List Event := [
  .refresh false, .answer 0 dollarAnswers ⟨1⟩, .answer 0 dollarAnswers ⟨2⟩]

def outage (currencies : Except RatesError (List Currency)) : Provider (StateM Unit)
  | .currencies => pure currencies
  | .rates => pure (.error (.status 502 ""))
  | .rate p => pure (.error (.rateUnavailable p))

theorem failed_refresh_outage :
    ∃ s', (((withPricing none 2).afterEvents oneRefresh).refresh (outage (.ok [.neutral]))
        (pure ⟨3⟩) false).run () = ((s', .error (.status 502 "")), ()) ∧
      s'.default = none ∧ s'.currencies.items = [.neutral] ∧ s'.table.edges = [] := by
  have hsettled : (withPricing none 2).Settled oneRefresh := List.forall_mem_nil _
  obtain ⟨s', result, w', hrun, hends⟩ :=
    failed_refresh rfl hsettled (outage (.ok [.neutral])) (pure ⟨3⟩) ()
  obtain ⟨hfailed, hforgotten, -, hlists⟩ := hends (.status 502 "")
  have hrefused :
      RefusesRates (outage (.ok [.neutral])) (pure ⟨3⟩) () [.neutral] (.status 502 "") :=
    ⟨(), ⟨3⟩, (), (), rfl, rfl, rfl⟩
  obtain rfl := hfailed.2 (.inr ⟨_, hrefused⟩)
  exact ⟨s', hrun, (hforgotten rfl).1, hlists _ hrefused⟩

theorem lists_left_by_failed_refresh :
    ((withPricing none 2).afterEvents oneRefresh).isLoading = false ∧
    (∃ s', (((withPricing none 2).afterEvents oneRefresh).refresh
        (outage (.error (.status 502 ""))) (pure ⟨3⟩) false).run () =
          ((s', .error (.status 502 "")), ()) ∧
      s'.rates.items = [{ pair := ⟨.ofText "USD", .neutral⟩, rate := .one }]) ∧
    ∃ s', (((withPricing none 2).afterEvents oneRefresh).refresh
        (outage (.ok [.neutral])) (pure ⟨3⟩) false).run () =
          ((s', .error (.status 502 "")), ()) ∧
      s'.currencies.items = [.neutral] :=
  ⟨rfl, ⟨_, rfl, rfl⟩, _, rfl, rfl⟩

end Forex.Store
