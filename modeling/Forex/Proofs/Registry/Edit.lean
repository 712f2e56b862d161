import Forex.Proofs.Decimal.Quotient
import Forex.Registry.Change

namespace Forex

def ExchangeRate.back (e : ExchangeRate) : ExchangeRate :=
  { e with pair := e.pair.swap, rate := e.rate.reciprocal }

def RateTable.putBothWays (t : RateTable) (e : ExchangeRate) : RateTable :=
  ((t.upsert e).erase e.pair.swap).upsert e.back

def RateTable.pin (t : RateTable) (code : Code) : RateTable :=
  (t.upsert { pair := ⟨code, .neutral⟩, rate := .one }).upsert
    { pair := ⟨.neutral, code⟩, rate := .one }

def Currency.trimmed (c : Currency) : Currency := { c with title := Text.trim c.title }

theorem Currency.id_trimmed (c : Currency) : c.trimmed.id = c.id := by
  unfold trimmed
  rfl

theorem Currency.code_trimmed (c : Currency) : c.trimmed.code = c.code := by
  unfold trimmed
  rfl

namespace Registry

variable {α : Type} (r : Registry)

def withDefault (id : Int32) (code : Code) : Registry where
  currencies := r.currencies.map fun c ↦ { c with isDefault := c.id == id }
  rates := r.rates.pin code

def withRate (e : ExchangeRate) : Registry := { r with rates := r.rates.putBothWays e }

@[simp] theorem run_refuse (e : RegistryError) :
    (refuse e : Edit α).run r = .error (.refused e) r := rfl

@[simp] theorem run_modifyCurrencies (f : List Currency → List Currency) :
    (modifyCurrencies f).run r = .ok () { r with currencies := f r.currencies } := rfl

@[simp] theorem run_modifyRates (f : RateTable → RateTable) :
    (modifyRates f).run r = .ok () { r with rates := f r.rates } := rfl

@[simp] theorem run_ite (p : Prop) [Decidable p] (x y : Edit α) :
    (if p then x else y).run r = if p then x.run r else y.run r := by
  split <;> rfl

theorem run_normalized (c : Currency) :
    (normalized c).run r =
      if c.trimmed.code.isEmpty || c.trimmed.title.isEmpty then .error (.refused .missingField) r
      else .ok c.trimmed r := by
  by_cases h : c.trimmed.code.isEmpty || c.trimmed.title.isEmpty
  · rw [if_pos h]
    simp only [normalized, EStateM.run_bind, run_ite, run_refuse, EStateM.run_pure]
    exact if_pos h
  · rw [if_neg h]
    simp only [normalized, EStateM.run_bind, run_ite, run_refuse, EStateM.run_pure]
    exact if_neg h

theorem run_createCurrency (draft : Currency) :
    (createCurrency draft).run r =
      let c := (r.complete draft).trimmed
      if c.code.isEmpty || c.title.isEmpty then .error (.refused .missingField) r
      else if c.isDefault && r.currencies.any (·.isDefault) then
        .error (.refused .defaultExists) r
      else if r.currencies.any (·.code == c.code) then .error (.refused (.duplicateCode c.code)) r
      else .ok c { r with currencies := r.currencies ++ [c] } := by
  simp only [createCurrency, EStateM.run_bind, EStateM.run_get, run_normalized]
  by_cases h : (r.complete draft).trimmed.code.isEmpty || (r.complete draft).trimmed.title.isEmpty
  · rw [if_pos h]
    exact (if_pos h).symm
  · rw [if_neg h]
    refine Eq.trans ?_ (if_neg h).symm
    simp only [EStateM.run_bind, run_ite, run_refuse, EStateM.run_pure, run_modifyCurrencies]

theorem run_updateCurrency (draft : Currency) :
    (updateCurrency draft).run r =
      let c := draft.trimmed
      if c.code.isEmpty || c.title.isEmpty then .error (.refused .missingField) r
      else if c.isDefault && r.currencies.any fun k ↦ k.isDefault && k.id != c.id then
        .error (.refused .defaultExists) r
      else if r.currencies.any fun k ↦ k.code == c.code && k.id != c.id then
        .error (.refused (.duplicateCode c.code)) r
      else if (r.currencyWithId? c.id).isNone then .error (.refused (.currencyNotFound c.id)) r
      else .ok () { r with currencies := replaceCurrency c r.currencies } := by
  simp only [updateCurrency, EStateM.run_bind, run_normalized]
  by_cases h : draft.trimmed.code.isEmpty || draft.trimmed.title.isEmpty
  · rw [if_pos h]
    exact (if_pos h).symm
  · rw [if_neg h]
    refine Eq.trans ?_ (if_neg h).symm
    simp only [EStateM.run_bind, EStateM.run_get, run_ite, run_refuse, run_modifyCurrencies]

theorem run_changeDefault (id : Int32) :
    (changeDefault id).run r =
      if id = Currency.neutralId then .error (.refused .neutralDefault) r
      else if 1 < r.currencies.countP (·.isDefault) then
        .error (.refused (.multipleDefaults (r.currencies.countP (·.isDefault)))) r
      else
        match r.currencyWithId? id with
        | none => .error (.refused (.currencyNotFound id)) r
        | some next =>
          if next.isDefault then .error (.refused (.alreadyDefault next.code)) r
          else .ok () (r.withDefault id next.code) := by
  simp only [changeDefault, EStateM.run_bind, run_ite, run_refuse, EStateM.run_get]
  split
  · rfl
  · split
    · rfl
    · cases r.currencyWithId? id with
      | none => rfl
      | some next =>
        simp only [EStateM.run_bind, run_ite, run_refuse, run_modifyCurrencies, run_modifyRates]
        split <;> rfl

def rateFault? (e : ExchangeRate) : Option RegistryError :=
  if e.rate ≤ .zero then some (.invalidRate e.rate)
  else if (r.currencyWithCode? e.pair.source).isNone then some (.unknownCurrency e.pair.source)
  else if (r.currencyWithCode? e.pair.target).isNone then some (.unknownCurrency e.pair.target)
  else none

structure Accepts (e : ExchangeRate) : Prop where
  positive : .zero < e.rate
  source : (r.currencyWithCode? e.pair.source).isSome
  target : (r.currencyWithCode? e.pair.target).isSome

theorem rateFault?_eq_none_iff (e : ExchangeRate) : r.rateFault? e = none ↔ r.Accepts e := by
  have hpos : ¬e.rate ≤ .zero ↔ .zero < e.rate := Int.not_le
  unfold rateFault?
  simp only [ite_eq_right_iff, reduceCtorEq, imp_false, Bool.not_eq_true, ite_eq_iff, and_false,
    false_or, Option.isNone_eq_false_iff, hpos]
  exact ⟨fun h ↦ ⟨h.1, h.2.1, h.2.2⟩, fun h ↦ ⟨h.positive, h.source, h.target⟩⟩

theorem Accepts.rate_ne_zero {r : Registry} {e : ExchangeRate} (h : r.Accepts e) :
    e.rate.isZero = false := by
  by_contra hz
  rw [Bool.not_eq_false, Decimal.isZero_iff] at hz
  have hpos := Decimal.lt_def.1 h.positive
  rw [hz] at hpos
  exact absurd hpos (by decide)

theorem run_checkRate (e : ExchangeRate) :
    (checkRate e).run r =
      match r.rateFault? e with
      | some f => .error (.refused f) r
      | none => .ok () r := by
  simp only [checkRate, EStateM.run_bind, run_ite, run_refuse, EStateM.run_get, EStateM.run_pure,
    rateFault?]
  split
  · rfl
  · split
    · rfl
    · split <;> rfl

theorem run_storeBothWays {e : ExchangeRate} (h : e.rate.isZero = false) :
    (storeBothWays e).run r = .ok () (r.withRate e) := by
  simp only [storeBothWays, EStateM.run_bind, run_modifyRates, Decimal.one_div_eq_reciprocal h]
  rfl

theorem run_createRate (e : ExchangeRate) :
    (createRate e).run r =
      if !e.pair.touchesNeutral then .error (.refused (.rateWithoutNeutral e.pair)) r
      else
        match r.rateFault? e with
        | some f => .error (.refused f) r
        | none => .ok () (r.withRate e) := by
  simp only [createRate, EStateM.run_bind, run_ite, run_refuse, run_checkRate]
  split
  · rfl
  · cases h : r.rateFault? e with
    | some f => rfl
    | none => exact r.run_storeBothWays ((r.rateFault?_eq_none_iff e).1 h).rate_ne_zero

theorem run_updateRate (e : ExchangeRate) :
    (updateRate e).run r =
      match r.rateFault? e with
      | some f => .error (.refused f) r
      | none =>
        if (r.rates.get? e.pair).isNone then .error (.refused (.rateNotFound e.pair)) r
        else .ok () (r.withRate e) := by
  simp only [updateRate, EStateM.run_bind, EStateM.run_get, run_ite, run_refuse, run_checkRate]
  cases h : r.rateFault? e with
  | some f => rfl
  | none =>
    simp only [r.run_storeBothWays ((r.rateFault?_eq_none_iff e).1 h).rate_ne_zero]

theorem run_deleteRate (p : Pair) :
    (deleteRate p).run r =
      match r.rates.remove? p with
      | none => .error (.refused (.rateNotFound p)) r
      | some (e, rest) => .ok e { r with rates := rest.erase p.swap } := by
  simp only [deleteRate, EStateM.run_bind, EStateM.run_get]
  cases r.rates.remove? p with
  | none => rfl
  | some x => rfl

end Registry

end Forex
