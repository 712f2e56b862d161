import Forex.Proofs.Command.Administration
import Forex.Proofs.Conversion

namespace Forex

open Decimal

namespace Command

def loadConverter {m : Type → Type} [Monad m] (host : Host m) (config : Config) :
    Action m Converter := do
  let store ← loadStore host config
  Action.ofResult .currency store.converter

variable (config : Config) (w : World) (json : Bool) (amount : Decimal) (source : Option Code)
  (target : Code)

def runConvert (strict : Bool) : Except (Abort CommandError) (List String) × World :=
  (Invocation.run World.host config { command := convert amount source target strict, json }).run w

theorem runConvert_eq (strict : Bool) :
    runConvert config w json amount source target strict =
      (do
        let c ← loadConverter World.host config
        let converted ← Action.ofAborted .currency (c.converted amount source target strict)
        return converted.report json).run.run w := by
  rw [loadConverter, bind_assoc]
  rfl

variable {config w} {w' : World}

theorem runConvert_of_error {e : Abort CommandError}
    (h : (loadConverter World.host config).run.run w = (.error e, w')) (strict : Bool) :
    runConvert config w json amount source target strict = (.error e, w') := by
  rw [runConvert_eq, Action.run_bind_error h]

section Loaded

variable {c : Converter} (h : (loadConverter World.host config).run.run w = (.ok c, w'))
include h

theorem exists_runConvert_false :
    ∃ lines, runConvert config w json amount source target false = (.ok lines, w') := by
  rw [runConvert_eq, Action.run_bind_ok h]
  exact ⟨_, rfl⟩

variable {json amount source target}

theorem runConvert_true_of_ok
    (hstrict : c.convertStrict ⟨source.getD c.base, target⟩ amount =
      .ok (c.convertBetween ⟨source.getD c.base, target⟩ amount)) :
    runConvert config w json amount source target true =
      runConvert config w json amount source target false := by
  rw [runConvert_eq, runConvert_eq, Action.run_bind_ok h, Action.run_bind_ok h,
    Converter.converted, Converter.converted]
  simp only [if_true, hstrict]
  rfl

theorem runConvert_true_of_refused {e : CurrencyError}
    (hstrict : c.convertStrict ⟨source.getD c.base, target⟩ amount = .error (.refused e)) :
    runConvert config w json amount source target true =
      (.error (.refused { cause := .currency e }), w') := by
  rw [runConvert_eq, Action.run_bind_ok h, Converter.converted]
  simp only [if_true, hstrict]
  rfl

theorem runConvert_true_of_outOfRange {fault : Fault}
    (hstrict : c.convertStrict ⟨source.getD c.base, target⟩ amount = .error (.outOfRange fault)) :
    runConvert config w json amount source target true = (.error (.outOfRange fault), w') := by
  rw [runConvert_eq, Action.run_bind_ok h, Converter.converted]
  simp only [if_true, hstrict]
  rfl

end Loaded

/-- The strict conversion gives a value exactly if there is a rate that is not zero and the product
fits a decimal, and then it is the value of the lenient one. It reports that there is no rate
exactly if there is none or it is zero. The one case left is a product that is too large: the strict
conversion has no result there, while the lenient one gives zero. The command with `--strict` goes
the same way: it prints what the command without it prints, or fails with the missing rate, or stops
at the product. -/
theorem strict_agrees_unless_too_large (c : Converter) (p : Pair) (amount : Decimal) :
    ((∀ v, c.convertStrict p amount = .ok v ↔
        v = c.convertBetween p amount ∧
          ∃ r, c.rate p = some r ∧ r.toRat ≠ 0 ∧ ¬TooLarge (amount.toRat * r.toRat)) ∧
      (c.convertStrict p amount = .error (.refused (.rateUnavailable p)) ↔
        ∀ r, c.rate p = some r → r.toRat = 0) ∧
      (c.convertStrict p amount = .error (.outOfRange .multiplication) ↔
        ∃ r, c.rate p = some r ∧ TooLarge (amount.toRat * r.toRat)) ∧
      (c.convertStrict p amount = .ok (c.convertBetween p amount) ∨
        c.convertBetween p amount = .zero)) ∧
    ∀ (config : Config) (w : World) (json : Bool) (source : Option Code) (target : Code),
      let run := runConvert config w json amount source target
      match (loadConverter World.host config).run.run w with
      | (.error e, w') => ∀ strict, run strict = (.error e, w')
      | (.ok loaded, w') =>
        let p : Pair := ⟨source.getD loaded.base, target⟩
        ∃ lines, run false = (.ok lines, w') ∧
          ((∃ r, loaded.rate p = some r ∧ r.toRat ≠ 0 ∧ ¬TooLarge (amount.toRat * r.toRat)) ∧
              run true = (.ok lines, w') ∨
            (∀ r, loaded.rate p = some r → r.toRat = 0) ∧
              run true = (.error (.refused { cause := .currency (.rateUnavailable p) }), w') ∨
            (∃ r, loaded.rate p = some r ∧ TooLarge (amount.toRat * r.toRat)) ∧
              run true = (.error (.outOfRange .multiplication), w')) := by
  constructor
  · rcases c.convertStrict_cases p amount with
      ⟨hzero, hstrict, hlenient⟩ | ⟨⟨r, hr, hlarge⟩, hstrict, hlenient⟩ |
        ⟨⟨r, hr, hne, hfits⟩, hstrict⟩
    all_goals
      rw [hstrict]
    case inl =>
      refine ⟨fun v ↦ iff_of_false nofun ?_, iff_of_true rfl hzero, iff_of_false nofun ?_,
        .inr hlenient⟩
      · rintro ⟨-, r, hr, hne, -⟩
        exact hne (hzero r hr)
      · rintro ⟨r, hr, hlarge⟩
        exact hlarge.right_ne_zero (hzero r hr)
    case inr.inl =>
      refine ⟨fun v ↦ iff_of_false nofun ?_, iff_of_false nofun ?_, iff_of_true rfl ⟨r, hr, hlarge⟩,
        .inr hlenient⟩
      · rintro ⟨-, r', hr', -, hfits⟩
        obtain rfl := Option.some.inj (hr.symm.trans hr')
        exact hfits hlarge
      · intro hzero
        exact hlarge.right_ne_zero (hzero r hr)
    case inr.inr =>
      refine ⟨fun v ↦ ?_, iff_of_false nofun ?_, iff_of_false nofun ?_, .inl rfl⟩
      · rw [Except.ok.injEq, eq_comm]
        exact (and_iff_left ⟨r, hr, hne, hfits⟩).symm
      · intro hzero
        exact hne (hzero r hr)
      · rintro ⟨r', hr', hlarge⟩
        obtain rfl := Option.some.inj (hr.symm.trans hr')
        exact hfits hlarge
  · intro config w json source target run
    split
    case h_1 e w' h => exact fun strict ↦ runConvert_of_error json amount source target h strict
    case h_2 loaded w' h =>
      intro p
      obtain ⟨lines, hlines⟩ := exists_runConvert_false json amount source target h
      refine ⟨lines, hlines, ?_⟩
      rcases loaded.convertStrict_cases p amount with
        ⟨hzero, hstrict, -⟩ | ⟨hlarge, hstrict, -⟩ | ⟨hfits, hstrict⟩
      · exact .inr (.inl ⟨hzero, runConvert_true_of_refused h hstrict⟩)
      · exact .inr (.inr ⟨hlarge, runConvert_true_of_outOfRange h hstrict⟩)
      · exact .inl ⟨hfits, (runConvert_true_of_ok h hstrict).trans hlines⟩

def hundredYen : Converter where
  base := .ofText "USD"
  rates := ⟨[{ pair := ⟨.ofText "USD", .ofText "JPY"⟩, rate := .hundred }]⟩

theorem strict_agrees_unless_too_large_hundredYen :
    hundredYen.convertStrict ⟨.ofText "USD", .ofText "JPY"⟩ .one =
      .ok (hundredYen.convertBetween ⟨.ofText "USD", .ofText "JPY"⟩ .one) ∧
    hundredYen.convertStrict ⟨.ofText "JPY", .ofText "USD"⟩ .one =
      .error (.refused (.rateUnavailable ⟨.ofText "JPY", .ofText "USD"⟩)) := by
  obtain ⟨⟨hvalue, -⟩, -⟩ :=
    strict_agrees_unless_too_large hundredYen ⟨.ofText "USD", .ofText "JPY"⟩ .one
  obtain ⟨⟨-, hnone, -⟩, -⟩ :=
    strict_agrees_unless_too_large hundredYen ⟨.ofText "JPY", .ofText "USD"⟩ .one
  constructor
  · refine (hvalue _).2 ⟨rfl, .hundred, by decide, ?_, ?_⟩
    · norm_num [toRat_hundred]
    · norm_num [TooLarge, toRat_one, toRat_hundred]
  · refine hnone.2 fun r hr ↦ ?_
    have hmissing : hundredYen.rate ⟨.ofText "JPY", .ofText "USD"⟩ = none := by decide
    exact absurd (hr.symm.trans hmissing) (Option.some_ne_none r)

theorem convertStrict_largest :
    let largest : Decimal :=
      { negative := false, mantissa := 79228162514264337593543950335, scale := 0 }
    let p : Pair := ⟨.ofText "USD", .ofText "JPY"⟩
    hundredYen.rate p = some .hundred ∧
    hundredYen.convertBetween p largest = .zero ∧
    hundredYen.convertStrict p largest = .error (.outOfRange .multiplication) := by
  decide

end Command

end Forex
