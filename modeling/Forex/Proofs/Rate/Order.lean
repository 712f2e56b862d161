import Forex.Proofs.Rate.Table
import Mathlib.Data.List.Induction
import Mathlib.Order.Bounds.Defs

namespace Forex.RateTable

inductive Change
  | upsert (e : ExchangeRate)
  | remove (p : Pair)

namespace Change

def pair : Change → Pair
  | upsert e => e.pair
  | remove p => p

def edge? : Change → Option ExchangeRate
  | upsert e => some e
  | remove _ => none

def apply (t : RateTable) : Change → RateTable
  | upsert e => t.upsert e
  | remove p => t.erase p

end Change

def after (changes : List Change) : RateTable := changes.foldl Change.apply empty

def LastPut (changes : List Change) (e : ExchangeRate) : Prop :=
  ∃ later, .upsert e :: later <:+ changes ∧ ∀ c ∈ later, c.pair ≠ e.pair

def Held (changes : List Change) (p : Pair) : Prop := ∃ e, e.pair = p ∧ LastPut changes e

/-- The change behind the first `n` puts the pair, which they do not hold. -/
def PutsNew (changes : List Change) (p : Pair) (n : Nat) : Prop :=
  ∃ before e, before ++ [.upsert e] <+: changes ∧ before.length = n ∧ e.pair = p ∧ ¬Held before p

variable {changes : List Change} {c : Change} {t : RateTable} {e : ExchangeRate} {p q : Pair}
  {n : Nat}

theorem Change.pair_of_edge? (h : c.edge? = some e) : e.pair = c.pair := by
  cases c with
  | upsert d =>
    obtain rfl := Option.some.inj h
    rfl
  | remove p => cases h

theorem get?_apply (h : t.pairs.Nodup) (c : Change) (p : Pair) :
    (c.apply t).get? p = if c.pair = p then c.edge? else t.get? p := by
  cases c with
  | upsert e => exact get?_upsert t e p
  | remove q =>
    simp only [Change.apply, Change.pair, Change.edge?, get?_erase h, eq_comm]

theorem nodup_pairs_apply (h : t.pairs.Nodup) (c : Change) : (c.apply t).pairs.Nodup := by
  cases c with
  | upsert e => exact nodup_pairs_upsert t e h
  | remove p => exact nodup_pairs_erase t p h

theorem after_concat (changes : List Change) (c : Change) :
    after (changes ++ [c]) = c.apply (after changes) := by
  rw [after, List.foldl_concat]
  rfl

theorem nodup_pairs_after (changes : List Change) : (after changes).pairs.Nodup := by
  induction changes using List.reverseRecOn with
  | nil => exact List.nodup_nil
  | append_singleton changes c ih =>
    rw [after_concat]
    exact nodup_pairs_apply ih c

theorem lastPut_concat :
    LastPut (changes ++ [c]) e ↔ c.edge? = some e ∨ c.pair ≠ e.pair ∧ LastPut changes e := by
  simp only [LastPut, List.suffix_concat_iff]
  constructor
  · rintro ⟨later, hnil | ⟨front, hfront, hsuffix⟩, hlater⟩
    · cases hnil
    · cases front with
      | nil =>
        obtain ⟨rfl, rfl⟩ : .upsert e = c ∧ later = [] := by simpa using hfront
        exact .inl rfl
      | cons d front =>
        obtain ⟨rfl, rfl⟩ : .upsert e = d ∧ later = front ++ [c] := by simpa using hfront
        refine .inr ⟨hlater c (by simp), front, hsuffix, fun d hd ↦ hlater d ?_⟩
        exact List.mem_append_left [c] hd
  · rintro (hput | ⟨hother, later, hsuffix, hlater⟩)
    · cases c with
      | upsert d =>
        obtain rfl := Option.some.inj hput
        exact ⟨[], .inr ⟨[], rfl, List.nil_suffix⟩, by simp⟩
      | remove p => cases hput
    · refine ⟨later ++ [c], .inr ⟨_, rfl, hsuffix⟩, fun d hd ↦ ?_⟩
      rcases List.mem_append.1 hd with hd | hd
      · exact hlater d hd
      · rwa [List.mem_singleton.1 hd]

theorem get?_after_eq_some_iff :
    (after changes).get? p = some e ↔ e.pair = p ∧ LastPut changes e := by
  induction changes using List.reverseRecOn with
  | nil =>
    refine iff_of_false (fun h ↦ nomatch h) ?_
    rintro ⟨-, later, hsuffix, -⟩
    cases List.suffix_nil.1 hsuffix
  | append_singleton changes c ih =>
    rw [after_concat, get?_apply (nodup_pairs_after changes), lastPut_concat]
    by_cases hp : c.pair = p
    · rw [if_pos hp]
      constructor
      · intro hput
        exact ⟨(Change.pair_of_edge? hput).trans hp, .inl hput⟩
      · rintro ⟨he, hput | ⟨hother, -⟩⟩
        · exact hput
        · exact absurd (hp.trans he.symm) hother
    · rw [if_neg hp, ih]
      constructor
      · rintro ⟨rfl, hlast⟩
        exact ⟨rfl, .inr ⟨hp, hlast⟩⟩
      · rintro ⟨rfl, hput | ⟨-, hlast⟩⟩
        · exact absurd (Change.pair_of_edge? hput).symm hp
        · exact ⟨rfl, hlast⟩

theorem held_iff : Held changes p ↔ p ∈ (after changes).pairs := by
  rw [← get?_isSome_iff, Option.isSome_iff_exists]
  simp only [get?_after_eq_some_iff, Held]

theorem PutsNew.lt_length (h : PutsNew changes p n) : n < changes.length := by
  obtain ⟨before, e, hprefix, rfl, -, -⟩ := h
  have hlength := hprefix.length_le
  rw [List.length_append] at hlength
  exact hlength

theorem putsNew_concat :
    PutsNew (changes ++ [c]) p n ↔
      PutsNew changes p n ∨
        n = changes.length ∧ ∃ e, c = .upsert e ∧ e.pair = p ∧ ¬Held changes p := by
  simp only [PutsNew, List.prefix_concat_iff]
  constructor
  · rintro ⟨before, e, heq | hprefix, hn, he, hnew⟩
    · obtain ⟨rfl, hc⟩ := List.append_inj' heq rfl
      obtain rfl := List.singleton_injective hc
      exact .inr ⟨hn.symm, e, rfl, he, hnew⟩
    · exact .inl ⟨before, e, hprefix, hn, he, hnew⟩
  · rintro (⟨before, e, hprefix, hn, he, hnew⟩ | ⟨hn, e, rfl, he, hnew⟩)
    · exact ⟨before, e, .inr hprefix, hn, he, hnew⟩
    · exact ⟨changes, e, .inl rfl, hn.symm, he, hnew⟩

theorem putsNew_concat_of_held (h : Held changes p) :
    PutsNew (changes ++ [c]) p n ↔ PutsNew changes p n := by
  rw [putsNew_concat]
  refine or_iff_left ?_
  rintro ⟨-, e, -, -, hnew⟩
  exact hnew h

structure Ordered (changes : List Change) (ps : List Pair) (time : Pair → Nat) : Prop where
  last : ∀ p ∈ ps, IsGreatest {n | PutsNew changes p n} (time p)
  sorted : ps.Pairwise (time · < time ·)

namespace Ordered

variable {ps qs : List Pair} {time : Pair → Nat}

theorem concat (h : Ordered changes ps time) (hheld : ∀ p ∈ ps, Held changes p) (hqs : qs.Sublist ps)
    (c : Change) : Ordered (changes ++ [c]) qs time := by
  refine ⟨fun p hp ↦ ?_, h.sorted.sublist hqs⟩
  have hmem := hqs.subset hp
  simpa only [putsNew_concat_of_held (hheld p hmem)] using h.last p hmem

theorem concat_new (h : Ordered changes ps time) (hheld : ∀ p ∈ ps, Held changes p)
    (hnew : ¬Held changes e.pair) :
    Ordered (changes ++ [.upsert e]) (ps ++ [e.pair])
      (Function.update time e.pair changes.length) := by
  have htime {p : Pair} (hp : p ∈ ps) :
      Function.update time e.pair changes.length p = time p := by
    refine Function.update_of_ne ?_ _ _
    rintro rfl
    exact hnew (hheld _ hp)
  have hkept := h.concat hheld (List.Sublist.refl ps) (.upsert e)
  constructor
  · intro p hp
    rcases List.mem_append.1 hp with hp | hp
    · rw [htime hp]
      exact hkept.last p hp
    · obtain rfl := List.mem_singleton.1 hp
      rw [Function.update_self]
      refine ⟨putsNew_concat.2 (.inr ⟨rfl, e, rfl, rfl, hnew⟩), fun n hn ↦ ?_⟩
      have hlt := PutsNew.lt_length hn
      rw [List.length_append] at hlt
      exact Nat.le_of_lt_succ hlt
  · refine List.pairwise_append.2 ⟨?_, List.pairwise_singleton _ _, ?_⟩
    · refine h.sorted.imp_of_mem fun hp hq hlt ↦ ?_
      rwa [htime hp, htime hq]
    · intro p hp q hq
      obtain rfl := List.mem_singleton.1 hq
      rw [htime hp, Function.update_self]
      exact (h.last p hp).1.lt_length

end Ordered

theorem exists_ordered_after (changes : List Change) :
    ∃ time, Ordered changes (after changes).pairs time := by
  -- One more change takes pairs away, or leaves them all, or adds one with the latest time.
  induction changes using List.reverseRecOn with
  | nil =>
    refine ⟨fun _ ↦ 0, fun p hp ↦ ?_, List.Pairwise.nil⟩
    cases hp
  | append_singleton changes c ih =>
    obtain ⟨time, h⟩ := ih
    have hheld : ∀ p ∈ (after changes).pairs, Held changes p := fun p ↦ held_iff.2
    rw [after_concat]
    cases c with
    | remove p =>
      refine ⟨time, h.concat hheld ?_ _⟩
      rw [Change.apply, pairs_erase]
      exact List.erase_sublist
    | upsert e =>
      rw [Change.apply, pairs_upsert]
      split
      case isTrue => exact ⟨time, h.concat hheld (List.Sublist.refl _) _⟩
      case isFalse hnew => exact ⟨_, h.concat_new hheld (mt held_iff.1 hnew)⟩

theorem remove?_eq (t : RateTable) (p : Pair) :
    t.remove? p = (t.get? p).map fun e ↦ (e, t.erase p) := by
  rw [← remove?_fst]
  cases h : t.remove? p with
  | none => rfl
  | some x =>
    rw [erase, h]
    rfl

/-- The table is the finite map that the changes make, in the order in which its pairs were last put
as new ones. -/
structure IsOrderedMap (changes : List Change) (t : RateTable) : Prop where
  nodup : t.pairs.Nodup
  get? : ∀ p e, t.get? p = some e ↔ e.pair = p ∧ LastPut changes e
  remove? : ∀ p, t.remove? p = (t.get? p).map fun e ↦ (e, t.erase p)
  ordered : ∃ time, Ordered changes t.pairs time
  keepsPlace : ∀ e, e.pair ∈ t.pairs → (t.upsert e).pairs = t.pairs

/-- Whatever was put and removed, a table never repeats a pair, answers for each pair with the edge
of the last change of it, gives that edge back when it is removed, and stands in the order in which
its pairs were last put as new ones; an edge that replaces another takes its place. -/
theorem isOrderedMap_after (changes : List Change) : IsOrderedMap changes (after changes) where
  nodup := nodup_pairs_after changes
  get? _ _ := get?_after_eq_some_iff
  remove? := remove?_eq _
  ordered := exists_ordered_after changes
  keepsPlace e he := by rw [pairs_upsert, if_pos he]

end Forex.RateTable
