import Forex.Converter
import Forex.Proofs.Rate.Table
import Mathlib.Data.List.Find

namespace Forex

theorem Pair.beq_eq (p q : Pair) : (p == q) = (p.source == q.source && p.target == q.target) := by
  rw [Bool.eq_iff_iff]
  cases p
  cases q
  simp

theorem Code.standsFor_of_ne {base wanted : Code} (h : wanted ≠ base) (code : Code) :
    code.standsFor base wanted = (code == wanted) := by
  rw [standsFor, beq_false_of_ne h, Bool.false_and, Bool.or_false]

theorem Code.standsFor_base (base code : Code) :
    code.standsFor base base = (code == base || code == .neutral) := by
  rw [standsFor, beq_self_eq_true, Bool.true_and]
  rfl

namespace RateTable

variable {t u : RateTable} {base : Code} {p : Pair}

theorem beq_false_of_get? (h : t.get? p = none) {e : ExchangeRate} (he : e ∈ t.edges) :
    (e.pair.source == p.source && e.pair.target == p.target) = false := by
  rw [← Pair.beq_eq]
  simpa using List.find?_eq_none.1 h e he

theorem find?_standsFor (hne : p.source ≠ p.target) (h : t.get? p = none) :
    t.edges.find? (fun e ↦
        e.pair.source.standsFor base p.source && e.pair.target.standsFor base p.target) =
      if p.source = base then t.get? ⟨.neutral, p.target⟩
      else if p.target = base then t.get? ⟨p.source, .neutral⟩
      else none := by
  split
  case isTrue hsource =>
    subst hsource
    refine List.find?_congr fun e he ↦ ?_
    rw [Code.standsFor_base, Code.standsFor_of_ne hne.symm, Bool.and_or_distrib_right,
      beq_false_of_get? h he, Bool.false_or, Pair.beq_eq]
  case isFalse hsource =>
    split
    case isTrue htarget =>
      subst htarget
      refine List.find?_congr fun e he ↦ ?_
      rw [Code.standsFor_base, Code.standsFor_of_ne hne, Bool.and_or_distrib_left,
        beq_false_of_get? h he, Bool.false_or, Pair.beq_eq]
    case isFalse htarget =>
      rw [List.find?_eq_none]
      intro e he
      rw [Code.standsFor_of_ne hsource, Code.standsFor_of_ne htarget, beq_false_of_get? h he]
      exact Bool.false_ne_true

theorem resolveEdge_eq (t : RateTable) (base : Code) (hne : p.source ≠ p.target) :
    t.resolveEdge base p =
      (t.get? p <|>
        if p.source = base then t.get? ⟨.neutral, p.target⟩
        else if p.target = base then t.get? ⟨p.source, .neutral⟩
        else none) := by
  unfold resolveEdge
  cases h : t.get? p with
  | some e => rfl
  | none => rw [find?_standsFor hne h]

theorem get?_eq_of_perm (hnodup : t.pairs.Nodup) (hperm : t.edges.Perm u.edges) (p : Pair) :
    u.get? p = t.get? p := by
  have hnodup' : u.pairs.Nodup := (hperm.map _).nodup_iff.1 hnodup
  refine Option.ext fun e ↦ ?_
  rw [get?, get?, find?_eq_some_iff_of_nodup hnodup, find?_eq_some_iff_of_nodup hnodup',
    hperm.mem_iff]

section SameLookups

variable (h : ∀ p, u.get? p = t.get? p)
include h

theorem resolveEdge_congr (base : Code) (hne : p.source ≠ p.target) :
    u.resolveEdge base p = t.resolveEdge base p := by
  simp only [resolveEdge_eq _ base hne, h]

theorem resolve_congr (base : Code) (p : Pair) : u.resolve base p = t.resolve base p := by
  unfold resolve
  split
  case isTrue => rfl
  case isFalse hne => rw [resolveEdge_congr h base hne]

theorem usableRate?_congr (base : Code) (p : Pair) :
    u.usableRate? base p = t.usableRate? base p := by
  rw [usableRate?, usableRate?, resolve_congr h]

theorem resolveOrInverse_congr (base : Code) (p : Pair) :
    u.resolveOrInverse base p = t.resolveOrInverse base p := by
  unfold resolveOrInverse
  rw [usableRate?_congr h, usableRate?_congr h]

end SameLookups

/-- An edge answers for a pair of two currencies if it is the first of that pair, or else the first
of the pair in which the neutral unit stands for the base; none is combined from several. So tables
with the same edges in any order, one for each pair at most, give the same answers. -/
theorem resolves_by_two_lookups :
    (∀ (t : RateTable) (base : Code) (p : Pair), p.source ≠ p.target →
      t.resolveEdge base p =
        (t.get? p <|>
          if p.source = base then t.get? ⟨.neutral, p.target⟩
          else if p.target = base then t.get? ⟨p.source, .neutral⟩
          else none)) ∧
    ∀ (c : Converter) (u : RateTable), c.rates.pairs.Nodup → c.rates.edges.Perm u.edges →
      let d := { c with rates := u }
      (∀ base p, u.resolve base p = c.rates.resolve base p) ∧
      (∀ base p, u.resolveOrInverse base p = c.rates.resolveOrInverse base p) ∧
      (∀ p, d.quote p = c.quote p) ∧
      (∀ p amount, d.convertBetween p amount = c.convertBetween p amount) ∧
      (∀ account price, d.toAccountPrice account price = c.toAccountPrice account price) ∧
      ∀ account price, d.fromAccountPrice account price = c.fromAccountPrice account price := by
  refine ⟨fun t base p hne ↦ t.resolveEdge_eq base hne, ?_⟩
  intro c u hnodup hperm d
  have hget := get?_eq_of_perm hnodup hperm
  have hconvert (p : Pair) (amount : Decimal) :
      d.convertBetween p amount = c.convertBetween p amount := by
    rw [Converter.convertBetween, Converter.rate, resolve_congr hget]
    rfl
  refine ⟨resolve_congr hget, resolveOrInverse_congr hget, ?quote, hconvert, ?toAccount,
    ?fromAccount⟩
  case quote =>
    intro p
    unfold Converter.quote
    split
    case isTrue => rfl
    case isFalse hne => rw [resolveEdge_congr hget c.base hne]
  case toAccount =>
    intro account price
    rw [Converter.toAccountPrice, hconvert]
    rfl
  case fromAccount =>
    intro account price
    rw [Converter.fromAccountPrice, usableRate?_congr hget]
    rfl

def crowdedTable : RateTable where
  edges := [
    { pair := ⟨.neutral, .neutral⟩, rate := .hundred },
    { pair := ⟨.neutral, .ofText "EUR"⟩, rate := .hundredth },
    { pair := ⟨.neutral, .ofText "EUR"⟩, rate := .one }]

theorem resolves_by_two_lookups_crowdedTable :
    Code.ofText "USD" ≠ .ofText "EUR" ∧
    crowdedTable.resolveEdge (.ofText "USD") ⟨.ofText "USD", .ofText "EUR"⟩ =
      some { pair := ⟨.neutral, .ofText "EUR"⟩, rate := .hundredth } ∧
    (RateTable.pairs ⟨crowdedTable.edges.take 2⟩).Nodup ∧
    (crowdedTable.edges.take 2).Perm (crowdedTable.edges.take 2).reverse ∧
    RateTable.resolve ⟨(crowdedTable.edges.take 2).reverse⟩ (.ofText "USD")
      ⟨.ofText "USD", .ofText "EUR"⟩ = some .hundredth := by
  have hne : Code.ofText "USD" ≠ .ofText "EUR" := by decide
  have hnodup : (RateTable.pairs ⟨crowdedTable.edges.take 2⟩).Nodup := by decide
  have hperm : (crowdedTable.edges.take 2).Perm (crowdedTable.edges.take 2).reverse :=
    (List.reverse_perm _).symm
  refine ⟨hne, ?_, hnodup, hperm, ?_⟩
  · rw [resolves_by_two_lookups.1 crowdedTable (.ofText "USD") ⟨.ofText "USD", .ofText "EUR"⟩ hne]
    decide
  · obtain ⟨hresolve, -⟩ := resolves_by_two_lookups.2
      { base := .ofText "USD", rates := ⟨crowdedTable.edges.take 2⟩ }
      ⟨(crowdedTable.edges.take 2).reverse⟩ hnodup hperm
    rw [hresolve]
    decide

end RateTable

end Forex
