import Forex.Proofs.Registry.Step
import Mathlib.Data.List.Nodup

namespace Forex.Registry

variable {r s : Registry}

def ids (r : Registry) : List Int32 := r.currencies.map (·.id)

instance : Std.LawfulOrderLeftLeaningMax Int32 where
  max_eq_left a b h := by
    change (if a ≤ b then b else a) = a
    split
    case isTrue hab => exact Int32.le_antisymm h hab
    case isFalse => rfl
  max_eq_right a b h := if_pos (Int32.le_of_lt (Int32.not_le.1 h))

theorem map_id_replaceCurrency (c : Currency) (ks : List Currency) :
    (replaceCurrency c ks).map (·.id) = ks.map (·.id) := by
  induction ks with
  | nil => rfl
  | cons k ks ih =>
    unfold replaceCurrency
    split
    case isTrue h => rw [List.map_cons, List.map_cons, h]
    case isFalse => rw [List.map_cons, List.map_cons, ih]

theorem mem_replaceCurrency {c k : Currency} {ks : List Currency}
    (h : k ∈ replaceCurrency c ks) : k = c ∨ k ∈ ks := by
  induction ks with
  | nil => cases h
  | cons x ks ih =>
    unfold replaceCurrency at h
    split at h
    case isTrue => exact (List.mem_cons.1 h).imp id (List.mem_cons_of_mem x)
    case isFalse =>
      rcases List.mem_cons.1 h with rfl | h
      · exact .inr List.mem_cons_self
      · exact (ih h).imp id (List.mem_cons_of_mem x)

theorem mem_replaceCurrency_self {c : Currency} {ks : List Currency}
    (h : (ks.find? (·.id == c.id)).isSome) : c ∈ replaceCurrency c ks := by
  induction ks with
  | nil => cases h
  | cons k ks ih =>
    unfold replaceCurrency
    split
    case isTrue => exact List.mem_cons_self
    case isFalse hk => exact List.mem_cons_of_mem k (ih (by simpa [hk] using h))

theorem eq_of_count_id {id : Int32} {c k : Currency} (h : r.ids.count id = 1)
    (hc : c ∈ r.currencies) (hk : k ∈ r.currencies) (hcid : c.id = id) (hkid : k.id = id) :
    c = k := by
  have hlength : (r.currencies.filter (·.id == id)).length = 1 := by
    rw [← h, ids, List.count, List.countP_map, List.countP_eq_length_filter]
    rfl
  obtain ⟨x, hx⟩ := List.length_eq_one_iff.1 hlength
  have honly {y : Currency} (hy : y ∈ r.currencies) (hid : y.id = id) : y = x := by
    have hmem : y ∈ r.currencies.filter (·.id == id) := List.mem_filter.2 ⟨hy, by simpa using hid⟩
    rw [hx] at hmem
    exact List.mem_singleton.1 hmem
  exact (honly hc hcid).trans (honly hk hkid).symm

theorem ids_withDefault (r : Registry) (id : Int32) (code : Code) :
    (r.withDefault id code).ids = r.ids := by
  simp [ids, withDefault]

theorem Step.ids_eq {c : Change} (hs : Step r c s) :
    s.ids = r.ids ++ match c with
      | .createCurrency draft => [(r.complete draft).id]
      | _ => [] := by
  cases hs with
  | @createCurrency draft k hk =>
    have hid : k.id = (r.complete draft).id := by rw [hk]; rfl
    simp [ids, hid]
  | updateCurrency => simp [ids, map_id_replaceCurrency]
  | changeDefault => simp [ids_withDefault]
  | createRate | updateRate | deleteRate => simp [ids, withRate]

theorem Step.nodup_ids_iff {c : Change} (h : r.ids.Nodup) (hs : Step r c s) :
    s.ids.Nodup ↔ ∀ draft, c = .createCurrency draft → (r.complete draft).id ∉ r.ids := by
  rw [hs.ids_eq]
  cases c with
  | createCurrency draft =>
    rw [List.nodup_append_comm, List.singleton_append, List.nodup_cons]
    simp [h]
  | updateCurrency | changeDefault | createRate | updateRate | deleteRate => simp [h]

theorem nodup_ids_afterAll (changes : List Change)
    (hfresh : ∀ before draft, (Change.createCurrency draft).SucceedsIn before changes →
      ((afterAll before initial).complete draft).id ∉ (afterAll before initial).ids) :
    (afterAll changes initial).ids.Nodup := by
  have hinit : initial.ids.Nodup := by decide
  refine (throughout_iff hinit (fun _ _ _ h hs ↦ hs.nodup_ids_iff h) changes).2 ?_ changes
    List.prefix_rfl
  rintro before _ hc draft rfl
  exact hfresh before draft hc

def DefaultsShareId (r : Registry) : Prop :=
  ∀ c ∈ r.currencies, ∀ k ∈ r.currencies, c.isDefault → k.isDefault → c.id = k.id

theorem Step.defaultsShareId {c : Change} (h : r.DefaultsShareId) (hs : Step r c s) :
    s.DefaultsShareId := by
  cases hs with
  | @createCurrency draft c hc _ _ hdefault =>
    intro x hx y hy hxd hyd
    simp only [List.mem_append, List.mem_singleton] at hx hy
    rcases hx with hx | rfl <;> rcases hy with hy | rfl
    · exact h x hx y hy hxd hyd
    · simp [hdefault hyd x hx] at hxd
    · simp [hdefault hxd y hy] at hyd
    · rfl
  | @updateCurrency draft c hc _ _ hdefault =>
    intro x hx y hy hxd hyd
    rcases mem_replaceCurrency hx with rfl | hx' <;> rcases mem_replaceCurrency hy with rfl | hy'
    · rfl
    · exact (hdefault hxd y hy' hyd).symm
    · exact hdefault hyd x hx' hxd
    · exact h x hx' y hy' hxd hyd
  | @changeDefault id next =>
    intro x hx y hy hxd hyd
    obtain ⟨x, -, rfl⟩ := List.mem_map.1 hx
    obtain ⟨y, -, rfl⟩ := List.mem_map.1 hy
    simp only [beq_iff_eq] at hxd hyd
    exact hxd.trans hyd.symm
  | createRate => exact h
  | updateRate => exact h
  | deleteRate => exact h

theorem Reachable.defaultsShareId (h : Reachable r) : r.DefaultsShareId := by
  refine h.induct ?_ fun _ _ _ h hs ↦ hs.defaultsShareId h
  intro c hc k hk _ _
  rw [List.mem_singleton.1 hc, List.mem_singleton.1 hk]

theorem countP_isDefault_le_one {cs : List Currency} (hnodup : (cs.map (·.id)).Nodup)
    (hshare : ∀ c ∈ cs, ∀ k ∈ cs, c.isDefault → k.isDefault → c.id = k.id) :
    cs.countP (·.isDefault) ≤ 1 := by
  induction cs with
  | nil => exact Nat.zero_le 1
  | cons c cs ih =>
    rw [List.map_cons, List.nodup_cons] at hnodup
    have htail := ih hnodup.2 fun x hx y hy ↦
      hshare x (List.mem_cons_of_mem c hx) y (List.mem_cons_of_mem c hy)
    by_cases hc : c.isDefault
    · have hnone : cs.countP (·.isDefault) = 0 := by
        rw [List.countP_eq_zero]
        intro k hk hkd
        have hid := hshare c List.mem_cons_self k (List.mem_cons_of_mem c hk) hc hkd
        exact hnodup.1 (List.mem_map.2 ⟨k, hk, hid.symm⟩)
      rw [List.countP_cons_of_pos hc, hnone]
    · rwa [List.countP_cons_of_neg hc]

theorem countP_isDefault_withDefault (r : Registry) (id : Int32) (code : Code) :
    (r.withDefault id code).currencies.countP (·.isDefault) =
      r.currencies.countP (·.id == id) := by
  simp [withDefault, List.countP_map, Function.comp_def]

theorem one_lt_of_multipleDefaults {id : Int32} {n : Nat}
    (h : (changeDefault id).run r = .error (.refused (.multipleDefaults n)) s) :
    1 < r.currencies.countP (·.isDefault) := by
  rw [run_changeDefault] at h
  split_ifs at h with hid hmany
  · simp at h
  · exact hmany
  · cases hc : r.currencyWithId? id with
    | none => simp [hc] at h
    | some next =>
      rw [hc] at h
      dsimp only at h
      split_ifs at h
      simp at h

/-- After any changes all default currencies share an id, and a change of the default marks as many
currencies as have its id. So there is at most one default, and several are never reported, as long
as no new currency that was accepted took an id in use. -/
theorem default_unique (changes : List Change) :
    (∀ c ∈ (afterAll changes initial).currencies, ∀ k ∈ (afterAll changes initial).currencies,
      c.isDefault → k.isDefault → c.id = k.id) ∧
    (∀ id s, (changeDefault id).run (afterAll changes initial) = .ok () s →
      s.currencies.countP (·.isDefault) =
        (afterAll changes initial).currencies.countP (·.id == id)) ∧
    ((∀ before draft, (Change.createCurrency draft).SucceedsIn before changes →
        ∀ k ∈ (afterAll before initial).currencies,
          k.id ≠ ((afterAll before initial).complete draft).id) →
      (afterAll changes initial).currencies.countP (·.isDefault) ≤ 1 ∧
      ∀ id n s, (changeDefault id).run (afterAll changes initial) ≠
        .error (.refused (.multipleDefaults n)) s) := by
  have hshare : (afterAll changes initial).DefaultsShareId :=
    Reachable.defaultsShareId ⟨changes, rfl⟩
  refine ⟨hshare, ?_, ?_⟩
  · intro id s hrun
    have hstep : Step _ (.changeDefault id) s := step_of_run_eq_ok hrun
    cases hstep with
    | changeDefault => exact countP_isDefault_withDefault _ _ _
  · intro hfresh
    have hids := nodup_ids_afterAll changes fun before draft hc hmem ↦ by
      obtain ⟨k, hk, hid⟩ := List.mem_map.1 hmem
      exact hfresh before draft hc k hk hid
    have hone := countP_isDefault_le_one hids hshare
    refine ⟨hone, fun id n s hrun ↦ ?_⟩
    have hmany := one_lt_of_multipleDefaults hrun
    omega

def freshIds : List Change := [
  .createCurrency
    { Currency.neutral with id := 5, code := .ofText "USD", title := "Dollar", isDefault := true },
  .createCurrency { Currency.neutral with code := .ofText "EUR", title := "Euro" },
  .changeDefault 6]

theorem default_unique_freshIds :
    (afterAll freshIds initial).currencies.map (·.isDefault) = [false, false, true] ∧
    (afterAll freshIds initial).currencies.countP (·.isDefault) ≤ 1 := by
  refine ⟨by decide +kernel, ((default_unique freshIds).2.2 ?_).1⟩
  rintro before draft ⟨⟨rest, hrest⟩, -⟩
  rcases before with _ | ⟨x, _ | ⟨y, before⟩⟩
  · obtain ⟨rfl, -⟩ : draft = _ ∧ _ := by simpa [freshIds] using hrest
    decide +kernel
  · obtain ⟨rfl, rfl, -⟩ : x = _ ∧ draft = _ ∧ _ := by simpa [freshIds] using hrest
    decide +kernel
  · simp [freshIds, List.append_eq_cons_iff] at hrest

def sharedId : List Change := [
  .createCurrency { Currency.neutral with id := 5, code := .ofText "USD", title := "Dollar" },
  .createCurrency { Currency.neutral with id := 5, code := .ofText "EUR", title := "Euro" },
  .changeDefault 5]

theorem two_defaults_after_sharedId :
    (afterAll sharedId initial).currencies.countP (·.isDefault) = 2 ∧
    (changeDefault 5).run (afterAll sharedId initial) =
      .error (.refused (.multipleDefaults 2)) (afterAll sharedId initial) := by
  have htwo : (afterAll sharedId initial).currencies.countP (·.isDefault) = 2 := by decide +kernel
  refine ⟨htwo, ?_⟩
  rw [run_changeDefault, htwo]
  rfl

end Forex.Registry
