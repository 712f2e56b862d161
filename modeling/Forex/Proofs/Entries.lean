import Forex.Entries
import Mathlib.Data.List.Nodup

namespace Forex

variable {α β : Type} [DecidableEq α]

theorem lookup_putEntry (k name : α) (v : β) (es : List (α × β)) :
    (putEntry name v es).lookup k = if k = name then some v else es.lookup k := by
  induction es with
  | nil =>
    by_cases h : k = name
    · simp [putEntry, h]
    · simp [putEntry, h, List.lookup_cons, beq_false_of_ne h]
  | cons e es ih =>
    obtain ⟨k', v'⟩ := e
    unfold putEntry
    by_cases hname : k' = name
    · by_cases h : k = name
      · simp [hname, h]
      · simp [hname, h, List.lookup_cons, beq_false_of_ne h]
    · rw [if_neg hname]
      by_cases h : k = k'
      · simp [h, hname]
      · simp [List.lookup_cons, beq_false_of_ne h, ih]

theorem lookup_filter_self (es : List (α × β)) (k : α) :
    (es.filter (·.1 != k)).lookup k = none := by
  rw [List.lookup_eq_none_iff]
  intro x hx
  have hne : x.1 ≠ k := by simpa using (List.mem_filter.1 hx).2
  simpa using hne.symm

theorem lookup_filter_of_ne (es : List (α × β)) {k name : α} (h : name ≠ k) :
    (es.filter (·.1 != k)).lookup name = es.lookup name := by
  induction es with
  | nil => rfl
  | cons x es ih =>
    obtain ⟨k', v⟩ := x
    by_cases hk : k' = k
    · have hne : (name == k) = false := by simpa using h
      simp [hk, List.lookup_cons, ih, hne]
    · simp [hk, List.lookup_cons, ih]

theorem lookup_of_nodup {es : List (α × β)} (h : (es.map (·.1)).Nodup) {k : α} {v : β}
    (hmem : (k, v) ∈ es) : es.lookup k = some v := by
  obtain ⟨before, after, rfl⟩ := List.append_of_mem hmem
  refine List.lookup_eq_some_iff.2 ⟨before, after, rfl, ?_⟩
  intro e he
  rw [List.map_append, List.map_cons, List.nodup_append] at h
  have hne := h.2.2 e.1 (List.mem_map_of_mem he) k List.mem_cons_self
  simpa using hne.symm

theorem find?_eq_some_iff_of_nodup {key : β → α} {bs : List β} (h : (bs.map key).Nodup) {k : α}
    {b : β} : bs.find? (key · == k) = some b ↔ b ∈ bs ∧ key b = k := by
  constructor
  · intro hb
    exact ⟨List.mem_of_find?_eq_some hb, by simpa using List.find?_some hb⟩
  · rintro ⟨hb, rfl⟩
    cases hfind : bs.find? (key · == key b) with
    | none => simpa using List.find?_eq_none.1 hfind b hb
    | some b' =>
      have hkey : key b' = key b := by simpa using List.find?_some hfind
      rw [List.inj_on_of_nodup_map h (List.mem_of_find?_eq_some hfind) hb hkey]

end Forex
