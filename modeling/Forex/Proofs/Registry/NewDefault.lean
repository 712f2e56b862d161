import Forex.Proofs.Rate.Mirrored

namespace Forex

def Currency.unmarked (c : Currency) : Currency := { c with isDefault := false }

namespace Registry

variable {r s : Registry} {id : Int32} {next : Currency}

/-- The mark has moved to the currencies with an id, the first of which is `next`. Nothing else has
changed in the catalogue, and in the rate table only the two edges that pin `next` have. -/
structure DefaultMoved (id : Int32) (next : Currency) (r s : Registry) : Prop where
  marked : ∀ k ∈ s.currencies, k.isDefault ↔ k.id = id
  unmarked : s.currencies.map (·.unmarked) = r.currencies.map (·.unmarked)
  pinned : ∀ p, p = ⟨next.code, .neutral⟩ ∨ p = ⟨.neutral, next.code⟩ →
    s.rates.get? p = some { pair := p, rate := .one, commission := .zero }
  unpinned : ∀ p, p ≠ ⟨next.code, .neutral⟩ → p ≠ ⟨.neutral, next.code⟩ →
    s.rates.get? p = r.rates.get? p

theorem defaultMoved_withDefault (r : Registry) (id : Int32) (next : Currency) :
    DefaultMoved id next r (r.withDefault id next.code) where
  marked := by
    intro k hk
    obtain ⟨c, -, rfl⟩ := List.mem_map.1 hk
    exact beq_iff_eq
  unmarked := by
    simp only [withDefault, List.map_map]
    rfl
  pinned := by
    intro p hp
    rw [withDefault, RateTable.get?_pin, if_pos hp.symm]
  unpinned := by
    intro p hback hforth
    rw [withDefault, RateTable.get?_pin, if_neg (not_or.2 ⟨hforth, hback⟩)]

theorem run_changeDefault_eq_ok_iff :
    (changeDefault id).run r = .ok () s ↔
      (id ≠ Currency.neutralId ∧ r.currencies.countP (·.isDefault) ≤ 1) ∧
        ∃ next, r.currencyWithId? id = some next ∧ next.isDefault = false ∧
          s = r.withDefault id next.code := by
  refine (run_eq_ok_iff (c := .changeDefault id)).trans ⟨fun h ↦ ?_, ?_⟩
  · cases h with
    | changeDefault hid hone hnext hother => exact ⟨⟨hid, hone⟩, _, hnext, hother, rfl⟩
  · rintro ⟨⟨hid, hone⟩, next, hnext, hother, rfl⟩
    exact .changeDefault hid hone hnext hother

/-- A change of the default succeeds exactly if the id is not that of the neutral unit, no more than
one currency is the default, and the first currency with the id is another one. Then the mark moves
to the id, the new default is pinned to the neutral unit, and all else stays as it was. -/
theorem changeDefault_moves (r : Registry) (id : Int32) :
    ((∃ s, (changeDefault id).run r = .ok () s) ↔
      id ≠ 0 ∧ r.currencies.countP (·.isDefault) ≤ 1 ∧
        ∃ next, r.currencies.find? (·.id == id) = some next ∧ next.isDefault = false) ∧
    ∀ s, (changeDefault id).run r = .ok () s →
      ∃ next, r.currencies.find? (·.id == id) = some next ∧ DefaultMoved id next r s := by
  simp only [run_changeDefault_eq_ok_iff]
  refine ⟨⟨?succeeds, ?checked⟩, ?moves⟩
  case succeeds =>
    rintro ⟨s, ⟨hid, hone⟩, next, hnext, hother, -⟩
    exact ⟨hid, hone, next, hnext, hother⟩
  case checked =>
    rintro ⟨hid, hone, next, hnext, hother⟩
    exact ⟨_, ⟨hid, hone⟩, next, hnext, hother, rfl⟩
  case moves =>
    rintro s ⟨-, next, hnext, -, rfl⟩
    exact ⟨next, hnext, r.defaultMoved_withDefault id next⟩

end Registry

end Forex
