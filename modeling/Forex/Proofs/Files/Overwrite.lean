import Forex.Files
import Forex.Proofs.Entries

namespace Forex

namespace FileTree

variable {t : FileTree} {c c' : ByteArray} {here there : List String}
  {es : List (String × FileTree)}

theorem at?_place (c : ByteArray) (t : FileTree) (here : List String) :
    (t.place c here).at? here = some (file c) := by
  induction here generalizing t with
  | nil => cases t <;> rfl
  | cons name names ih =>
    cases t with
    | file c' => simp [place, at?, ih]
    | directory es => simp [place, at?, lookup_putEntry, ih]

theorem at?_place_directory (hfile : t.at? here = some (file c)) (c' : ByteArray)
    (h : t.at? there = some (directory es)) :
    ∃ es', (t.place c' here).at? there = some (directory es') ∧
      ∀ name, (es'.lookup name).isSome = (es.lookup name).isSome := by
  induction here generalizing t there with
  | nil =>
    obtain rfl : t = file c := by simpa [at?] using hfile
    cases there with
    | nil => simp [at?] at h
    | cons => simp [at?] at h
  | cons name names ih =>
    cases t with
    | file c => simp [at?] at hfile
    | directory entries =>
      simp only [at?] at hfile
      obtain ⟨inner, hinner, hnames⟩ := Option.bind_eq_some_iff.1 hfile
      cases there with
      | nil =>
        obtain rfl : entries = es := by simpa [at?] using h
        refine ⟨_, rfl, fun k ↦ ?_⟩
        rw [lookup_putEntry]
        split
        case isTrue hk => rw [hk, hinner]; rfl
        case isFalse => rfl
      | cons k ks =>
        simp only [at?] at h
        obtain ⟨sub, hsub, h⟩ := Option.bind_eq_some_iff.1 h
        by_cases hk : k = name
        · subst hk
          obtain rfl : inner = sub := Option.some.inj (hinner.symm.trans hsub)
          obtain ⟨es', hes', hkept⟩ := ih hnames h
          refine ⟨es', ?_, hkept⟩
          simpa [place, at?, lookup_putEntry, hinner] using hes'
        · refine ⟨es, ?_, fun _ ↦ rfl⟩
          simpa [place, at?, lookup_putEntry, hk, hsub] using h

theorem enter_place (hfile : t.at? here = some (file c)) (c' : ByteArray) {name : String}
    {next : List String} (h : t.enter there name = .ok next) :
    (t.place c' here).enter there name = .ok next := by
  unfold enter at h
  split at h
  case h_1 es hes =>
    obtain ⟨es', hes', hnames⟩ := at?_place_directory hfile c' hes
    rw [enter, hes']
    simpa only [hnames name] using h
  case h_2 => cases h
  case h_3 => cases h

theorem follow_place (hfile : t.at? here = some (file c)) (c' : ByteArray) (names : List String)
    {next : List String} (h : names.foldlM t.enter there = .ok next) :
    names.foldlM (t.place c' here).enter there = .ok next := by
  induction names generalizing there with
  | nil => exact h
  | cons name names ih =>
    rw [List.foldlM_cons] at h ⊢
    cases hname : t.enter there name with
    | error e =>
      rw [hname] at h
      cases h
    | ok step =>
      rw [hname] at h
      rw [enter_place hfile c' hname]
      exact ih h

theorem read_eq_ok_iff {path : String} :
    t.read path = .ok c ↔
      ∃ here, checkPath path = .ok () ∧ t.follow (pathNames path) = .ok here ∧
        t.at? here = some (file c) := by
  cases hcheck : checkPath path with
  | error e => simp [read, resolve, hcheck, bind, Except.bind]
  | ok u =>
    cases hfollow : t.follow (pathNames path) with
    | error e => simp [read, resolve, hcheck, hfollow, bind, Except.bind]
    | ok here =>
      simp only [read, resolve, hcheck, hfollow, bind, Except.bind, Except.ok.injEq, true_and,
        exists_eq_left']
      split
      · rename_i hat
        simp [hat, pure, Except.pure]
      · rename_i hat
        simp [hat]
      · rename_i hat
        simp [hat]

/-- What can be read can be written over, and is then read as it was written. -/
theorem exists_write_of_read {path : String} (h : t.read path = .ok c) (c' : ByteArray) :
    ∃ t', t.write path c' = .ok t' ∧ t'.read path = .ok c' := by
  obtain ⟨here, hcheck, hfollow, hfile⟩ := read_eq_ok_iff.1 h
  have hresolve : t.resolve path = .ok here := by
    rw [resolve, hcheck]
    exact hfollow
  refine ⟨t.place c' here, ?_, ?_⟩
  · rw [write, hcheck]
    simp only [bind, Except.bind, hresolve, hfile]
    rfl
  · exact read_eq_ok_iff.2 ⟨here, hcheck, follow_place hfile c' _ hfollow, at?_place c' t here⟩

end FileTree

theorem readText_toUTF8 (s : String) : readText s.toUTF8 = .ok s := by
  have h : String.fromUTF8? s.toUTF8 = some s := dif_pos s.isValidUTF8
  rw [readText, h]

end Forex
