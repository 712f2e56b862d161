import Forex.Command.Run
import Forex.Proofs.Command.Administration
import Forex.Proofs.Registry.Step
import Forex.Proofs.Store.Refresh

namespace Forex

structure Config.Serves (config : Config) (w : World) (r : Registry) : Prop where
  source : config.rates.source = .file
  base : (Store.withPricing config.pricing.baseCurrency
    config.pricing.displayPrecision).baseOverride = none
  file : ∃ snapshot : Snapshot,
    SnapshotFile.Holds ⟨config.rates.path⟩ w snapshot ∧ snapshot.toRegistry = r

def Converter.base? (c : Except CurrencyError Converter) : Option Code := c.toOption.map (·.base)

theorem Store.base?_converter (s : Store) : Converter.base? s.converter = s.default := by
  unfold converter
  cases s.default <;> rfl

theorem Snapshot.detectDefault_ofRegistry (r : Registry) :
    RateTable.detectDefault ⟨(ofRegistry r).exchangeRates⟩ = r.rates.detectDefault := by
  rw [exchangeRates_ofRegistry]
  exact r.rates.detectDefault_unsignZeros

variable {config : Config} {w : World} {r s : Registry} {id : Int32}

theorem Store.base?_of_refresh {f : SnapshotFile} {store : Store}
    (h : f.Holds w (.ofRegistry r)) (hbase : store.baseOverride = none)
    (hidle : store.isLoading = false) (silent : Bool) :
    ∃ store' outcome,
      (store.refresh (f.provider World.host) World.host.clock silent).run w =
        ((store', .ok outcome), w) ∧
      Converter.base? store'.converter = r.rates.detectDefault := by
  obtain ⟨store', outcome, hrun, hdefault⟩ := exists_refresh h hidle silent
  refine ⟨store', outcome, hrun, ?_⟩
  rw [base?_converter, hdefault, hbase, Snapshot.detectDefault_ofRegistry]
  rfl

theorem Command.run_loadStore (hsource : config.rates.source = .file) {store : Store}
    {outcome : FetchOutcome}
    (h : ((Store.withPricing config.pricing.baseCurrency config.pricing.displayPrecision).refresh
      (SnapshotFile.provider World.host ⟨config.rates.path⟩) World.host.clock false).run w =
        ((store, .ok outcome), w)) :
    (loadStore World.host config).run.run w = (.ok store, w) := by
  have hprovider : config.provider World.host =
      .ok (SnapshotFile.provider World.host ⟨config.rates.path⟩) := by
    rw [Config.provider, hsource]
  rw [loadStore, hprovider, Action.run_bind_ok (Action.run_ofResult_ok _ _ w)]
  dsimp only
  rw [Action.run_bind_ok (Action.run_lift h)]
  rfl

theorem Config.Serves.base?_after_setDefault (h : config.Serves w r)
    (hrun : (Registry.changeDefault id).run r = .ok () s) (json : Bool) :
    ∃ lines w' store,
      Administration.execute config w (.setDefault id) json = (.ok lines, w') ∧
      (Command.loadStore World.host config).run.run w' = (.ok store, w') ∧
      Converter.base? store.converter = s.rates.detectDefault := by
  obtain ⟨snapshot, hholds, rfl⟩ := h.file
  obtain ⟨lines, w', hexecute, hholds'⟩ :=
    Administration.exists_execute h.source hholds (.setDefault id) json hrun
  obtain ⟨store, outcome, hrefresh, hbase⟩ := Store.base?_of_refresh hholds' h.base rfl false
  exact ⟨lines, w', store, hexecute, Command.run_loadStore h.source hrefresh, hbase⟩

namespace Registry

theorem base?_withDefault {c : Currency} (hc : r.currencyWithId? id = some c) :
    Converter.base? (r.withDefault id c.code).converter = some c.code := by
  have hmarked : (r.withDefault id c.code).defaultCurrency? =
      some { c with isDefault := true } := by
    have hid : c.id = id := by simpa using List.find?_some hc
    rw [defaultCurrency?, withDefault, List.find?_map]
    simp only [Function.comp_def]
    rw [← currencyWithId?, hc]
    simp [hid]
  rw [converter, hmarked]
  rfl

/-- After a change of the default, the base of the registry is the code of the new default. A store
that is refreshed from the stored registry has the base that the table shows, and so has the program
after the command for it. The two are the same exactly if the first edge of the old table that shows
a base or leads between the new default and the neutral unit, if there is one, is of the latter
kind. -/
theorem base_after_changeDefault (h : (changeDefault id).run r = .ok () s) :
    ∃ c, r.currencyWithId? id = some c ∧
      Converter.base? s.converter = some c.code ∧
      (∀ (f : SnapshotFile) (w : World) (store : Store) (silent : Bool),
        f.Holds w (.ofRegistry s) → store.baseOverride = none → store.isLoading = false →
        ∃ store' outcome,
          (store.refresh (f.provider World.host) World.host.clock silent).run w =
            ((store', .ok outcome), w) ∧
          Converter.base? store'.converter = s.rates.detectDefault) ∧
      (∀ (config : Config) (w : World) (json : Bool), config.Serves w r →
        ∃ lines w' store,
          Administration.execute config w (.setDefault id) json = (.ok lines, w') ∧
          (Command.loadStore World.host config).run.run w' = (.ok store, w') ∧
          Converter.base? store.converter = s.rates.detectDefault) ∧
      (s.rates.detectDefault = some c.code ↔
        c.code ≠ .neutral ∧
          ∀ e, r.rates.edges.find? (fun e ↦ e.isPin || e.joins c.code) = some e →
            e.joins c.code) := by
  have hstep : Step r (.changeDefault id) s := step_of_run_eq_ok h
  cases hstep with
  | @changeDefault _ c _ _ hc _ =>
    exact ⟨c, hc, base?_withDefault hc,
      fun f w store silent hfile hbase hidle ↦ Store.base?_of_refresh hfile hbase hidle silent,
      fun config w json hserves ↦ hserves.base?_after_setDefault h json,
      RateTable.detectDefault_pin_iff r.rates c.code⟩

def dollar : Currency :=
  { Currency.neutral with id := 1, code := .ofText "USD", title := "Dollar", precision := 2 }

def euro : Currency :=
  { Currency.neutral with id := 2, code := .ofText "EUR", title := "Euro", precision := 2 }

def twoCurrencies : Registry := ⟨[.neutral, dollar, euro], .empty⟩

theorem base_after_changeDefault_dollar :
    (changeDefault 1).run twoCurrencies = .ok () (twoCurrencies.withDefault 1 dollar.code) ∧
    (twoCurrencies.withDefault 1 dollar.code).rates.detectDefault = some dollar.code := by
  have hc : twoCurrencies.currencyWithId? 1 = some dollar := by decide
  have h : (changeDefault 1).run twoCurrencies =
      .ok () (twoCurrencies.withDefault 1 dollar.code) :=
    run_eq_ok_iff.2 (.changeDefault (by decide) (by decide) hc rfl)
  obtain ⟨c, hc', -, -, -, hiff⟩ := base_after_changeDefault h
  obtain rfl : c = dollar := Option.some.inj (hc'.symm.trans hc)
  exact ⟨h, hiff.2 ⟨by decide, fun e he ↦ nomatch he⟩⟩

/-- A second default is not shown: the pin of the first one still stands before its own. -/
theorem detectDefault_after_second_default :
    Reachable (twoCurrencies.withDefault 1 dollar.code) ∧
    (changeDefault 2).run (twoCurrencies.withDefault 1 dollar.code) =
      .ok () ((twoCurrencies.withDefault 1 dollar.code).withDefault 2 euro.code) ∧
    ((twoCurrencies.withDefault 1 dollar.code).withDefault 2 euro.code).rates.detectDefault =
      some dollar.code ∧
    dollar.code ≠ euro.code := by
  have hc : (twoCurrencies.withDefault 1 dollar.code).currencyWithId? 2 = some euro := by decide
  refine ⟨⟨[.createCurrency dollar, .createCurrency euro, .changeDefault 1], ?_⟩, ?_, ?_, ?_⟩
  · decide +kernel
  · exact run_eq_ok_iff.2 (.changeDefault (by decide) (by decide) hc rfl)
  · decide +kernel
  · decide

end Registry

end Forex
