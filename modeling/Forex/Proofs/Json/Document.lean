import Forex.Proofs.Json.Scalar
import Mathlib.Data.List.Forall2
import Mathlib.Tactic.IntervalCases

namespace Forex.Json

/-- All numbers are whole and have at most 64 bits, and at most `room` containers lie within each
other. -/
inductive Plain : (room : Nat) → Json → Prop
  | null {room : Nat} : Plain room .null
  | bool {room : Nat} (b : Bool) : Plain room (.bool b)
  | integer {room : Nat} {k : Int} (hk : IsWord k) : Plain room (.number (.integer k))
  | string {room : Nat} (s : String) : Plain room (.string s)
  | array {room : Nat} {items : List Json} (h : ∀ j ∈ items, Plain room j) :
      Plain (room + 1) (.array items)
  | object {room : Nat} {entries : List (String × Json)} (h : ∀ e ∈ entries, Plain room e.2) :
      Plain (room + 1) (.object entries)

/-- The documents that a value is found in. Doubles, whose digits do not show the value alone, are
left out. -/
inductive Shows : Json → Document → Prop
  | null : Shows .null .null
  | bool (b : Bool) : Shows (.bool b) (.bool b)
  | integer {k : Int} {n : Numeral} (h : n.read = .ok (.integer k)) :
      Shows (.number (.integer k)) (.number n)
  | string {s : String} {l : Literal} (h : l.read = .ok s) : Shows (.string s) (.string l)
  | array {items : List Json} {ds : List Document} (h : List.Forall₂ Shows items ds) :
      Shows (.array items) (.array ds none)
  | object {entries : List (String × Json)} {ms : List (Literal × Document)}
      (hkeys : List.Forall₂ (fun e m ↦ m.1.read = .ok e.1) entries ms)
      (h : List.Forall₂ (fun e m ↦ Shows e.2 m.2) entries ms) :
      Shows (.object entries) (.object ms none)

theorem skipBlanks_newLine (depth : Nat) (cs : List Char) :
    skipBlanks (newLine depth ++ cs) = skipBlanks cs := by
  have h : ∀ n, skipBlanks (List.replicate n ' ' ++ cs) = skipBlanks cs := by
    intro n
    induction n with
    | zero => rfl
    | succ n ih => exact ih
  exact h (2 * depth)

theorem skipBlanks_cons {c : Char} (hc : isBlank c = false) (cs : List Char) :
    skipBlanks (c :: cs) = c :: cs := by
  simp [skipBlanks, hc]

def Starts (cs : List Char) : Prop := ∃ c cs', cs = c :: cs' ∧ isBlank c = false ∧ c ≠ ']'

theorem starts_cons {c : Char} {cs : List Char} (hc : isBlank c = false) (h : c ≠ ']') :
    Starts (c :: cs) := ⟨c, cs, rfl, hc, h⟩

theorem starts_toDigits (n : Nat) : Starts (Nat.toDigits 10 n) := by
  obtain ⟨d, cs, hd, -, h⟩ := Text.exists_toDigits_eq_cons n
  rw [h]
  interval_cases d <;> exact starts_cons (by decide) (by decide)

theorem starts_pretty {room : Nat} {j : Json} (h : Plain room j) (indent : Nat) :
    Starts (pretty indent j) := by
  cases h with
  | null => exact starts_cons (by decide) (by decide)
  | bool b => cases b <;> exact starts_cons (by decide) (by decide)
  | @integer _ k =>
    by_cases hk : k < 0
    · have hminus : pretty indent (.number (.integer k)) = '-' :: Nat.toDigits 10 k.natAbs := by
        simp [pretty, scalar, Number.toChars, hk]
      rw [hminus]
      exact starts_cons (by decide) (by decide)
    · have := starts_toDigits k.natAbs
      simpa [pretty, scalar, Number.toChars, hk]
  | string s => exact starts_cons (by decide) (by decide)
  | @array _ items => cases items <;> exact starts_cons (by decide) (by decide)
  | @object _ entries => cases entries <;> exact starts_cons (by decide) (by decide)

variable {fuel depth : Nat} {rest : List Char}

theorem scanDocument_newLine (indent : Nat) (cs : List Char) :
    scanDocument fuel depth (newLine indent ++ cs) = scanDocument fuel depth cs := by
  cases fuel with
  | zero => rw [scanDocument, scanDocument]
  | succ fuel => rw [scanDocument, scanDocument, skipBlanks_newLine]

theorem scanDocument_blank (cs : List Char) :
    scanDocument fuel depth (' ' :: cs) = scanDocument fuel depth cs := by
  cases fuel with
  | zero => rw [scanDocument, scanDocument]
  | succ fuel => rw [scanDocument, scanDocument]; rfl

theorem scanDocument_digits (n : Nat) :
    scanDocument (fuel + 1) depth (Nat.toDigits 10 n ++ rest) =
      scanNumber false (Nat.toDigits 10 n ++ rest) := by
  obtain ⟨d, cs, hd, -, h⟩ := Text.exists_toDigits_eq_cons n
  rw [h, scanDocument]
  interval_cases d <;> rfl

/-- The value is read back from its printed form, with fuel for its length. -/
def ReadsBack (depth indent : Nat) (j : Json) : Prop :=
  ∀ fuel rest, (pretty indent j).length ≤ fuel → Ends rest →
    ∃ d, Shows j d ∧ scanDocument fuel depth (pretty indent j ++ rest) = (d, some rest)

theorem readsBack_integer {k : Int} (hk : IsWord k) (depth indent : Nat) :
    ReadsBack depth indent (.number (.integer k)) := by
  intro fuel rest hfuel hrest
  simp only [pretty, scalar, Number.toChars] at hfuel ⊢
  obtain ⟨fuel, rfl⟩ : ∃ f, fuel = f + 1 := by
    have := Nat.length_toDigits_pos (b := 10) (n := k.natAbs)
    rw [List.length_append] at hfuel
    exact ⟨fuel - 1, by omega⟩
  have hscan (negative : Bool) := Numeral.scan_toDigits negative k.natAbs hrest
  obtain ⟨hleast, hgreatest⟩ := hk
  by_cases h : k < 0
  · have hread := read_negative (n := k.natAbs) (by omega) (by omega)
    rw [show -(k.natAbs : Int) = k by omega] at hread
    refine ⟨_, .integer hread, ?_⟩
    rw [if_pos h, List.cons_append, List.nil_append, List.cons_append, scanDocument]
    simp only [skipBlanks_cons (c := '-') (by decide), scanNumber, hscan]
  · have hread := read_natural (n := k.natAbs) (by omega)
    rw [show (k.natAbs : Int) = k by omega] at hread
    refine ⟨_, .integer hread, ?_⟩
    rw [if_neg h, List.nil_append, scanDocument_digits]
    simp only [scanNumber, hscan]

theorem readsBack_string (s : String) (depth indent : Nat) :
    ReadsBack depth indent (.string s) := by
  intro fuel rest hfuel _
  obtain ⟨l, hread, hfault, hscan⟩ := exists_scan_quote s
  obtain ⟨hquote, hscan⟩ := hscan rest
  obtain ⟨fuel, rfl⟩ : ∃ f, fuel = f + 1 := by
    simp only [pretty, scalar, quote, quoteChars, List.length_cons] at hfuel
    exact ⟨fuel - 1, by omega⟩
  refine ⟨.string l, .string hread, ?_⟩
  simp only [pretty, scalar]
  rw [hquote, scanDocument, skipBlanks_cons (by decide)]
  simp only [hscan, hfault, Option.isNone_none, if_true]

def leads (start : Bool) : List Char := if start then [] else [',']

theorem scanItems_item {start : Bool} {n : Nat} {cs more : List Char} {d : Document}
    {ds : List Document} (hcs : Starts cs)
    (hd : scanDocument fuel depth (cs ++ more) = (d, some more))
    (hmore : scanItems fuel depth false more = ((ds, none), some rest)) :
    scanItems (fuel + 1) depth start (leads start ++ (newLine n ++ (cs ++ more))) =
      ((d :: ds, none), some rest) := by
  obtain ⟨c, cs, rfl, hblank, hend⟩ := hcs
  cases start with
  | true =>
    have hskip : skipBlanks (leads true ++ (newLine n ++ (c :: cs ++ more))) =
        c :: (cs ++ more) := by
      rw [leads, if_pos rfl, List.nil_append, skipBlanks_newLine]
      exact skipBlanks_cons hblank _
    rw [List.cons_append] at hd
    rw [scanItems, hskip]
    split
    case h_1 h => cases h
    case h_2 h => exact absurd (List.cons.inj h).1 hend
    case h_3 h =>
      obtain ⟨rfl, rfl⟩ := List.cons.inj h
      simp only [if_true, hd, hmore]
  | false =>
    have hskip : skipBlanks (leads false ++ (newLine n ++ (c :: cs ++ more))) =
        ',' :: (newLine n ++ (c :: cs ++ more)) := skipBlanks_cons (by decide) _
    rw [← scanDocument_newLine n] at hd
    rw [scanItems, hskip]
    split
    case h_1 h => cases h
    case h_2 h => exact absurd (List.cons.inj h).1 (by decide)
    case h_3 h =>
      obtain ⟨rfl, rfl⟩ := List.cons.inj h
      simp only [Bool.false_eq_true, if_false, if_true, hd, hmore]

theorem exists_scanItems {n : Nat} {items : List Json} (hne : items ≠ [])
    (hstarts : ∀ j ∈ items, Starts (pretty (n + 1) j))
    (hitems : ∀ j ∈ items, ReadsBack depth (n + 1) j) (start : Bool)
    (hfuel : (prettyItems n items).length ≤ fuel) (rest : List Char) :
    ∃ ds, List.Forall₂ Shows items ds ∧
      scanItems fuel depth start (leads start ++ (prettyItems n items ++ rest)) =
        ((ds, none), some rest) := by
  induction items generalizing fuel start with
  | nil => exact absurd rfl hne
  | cons j js ih =>
    obtain ⟨hj, hjs⟩ := List.forall_mem_cons.1 hitems
    obtain ⟨hstart, hstarts⟩ := List.forall_mem_cons.1 hstarts
    cases js with
    | nil =>
      simp only [prettyItems, List.length_append, newLine, List.length_cons] at hfuel
      obtain ⟨fuel, rfl⟩ : ∃ f, fuel = f + 2 := ⟨fuel - 2, by omega⟩
      obtain ⟨d, hd, hscan⟩ := hj (fuel + 1) (newLine n ++ (']' :: rest)) (by omega)
        (ends_newLine n _)
      have hend : scanItems (fuel + 1) depth false (newLine n ++ (']' :: rest)) =
          (([], none), some rest) := by
        rw [scanItems, skipBlanks_newLine]
        rfl
      refine ⟨[d], .cons hd .nil, ?_⟩
      simp only [prettyItems, List.append_assoc, List.singleton_append]
      exact scanItems_item hstart hscan hend
    | cons j' js =>
      simp only [prettyItems, List.length_append, newLine, List.length_cons] at hfuel
      obtain ⟨fuel, rfl⟩ : ∃ f, fuel = f + 1 := ⟨fuel - 1, by omega⟩
      obtain ⟨d, hd, hscan⟩ := hj fuel (',' :: (prettyItems n (j' :: js) ++ rest)) (by omega)
        (ends_comma _)
      have hmore : (prettyItems n (j' :: js)).length ≤ fuel := by omega
      obtain ⟨ds, hds, hmore⟩ := ih (by simp) hstarts hjs false hmore
      refine ⟨d :: ds, .cons hd hds, ?_⟩
      simp only [prettyItems, List.append_assoc, List.cons_append]
      exact scanItems_item hstart hscan hmore

theorem scanMembers_member {start : Bool} {n : Nat} {l : Literal} {key cs more : List Char}
    {d : Document} {ms : List (Literal × Document)} (hfault : l.fault = none)
    (hkey : Literal.scan key = (l, ':' :: ' ' :: (cs ++ more)))
    (hd : scanDocument fuel depth (cs ++ more) = (d, some more))
    (hmore : scanMembers fuel depth false more = ((ms, none), some rest)) :
    scanMembers (fuel + 1) depth start (leads start ++ (newLine n ++ '"' :: key)) =
      (((l, d) :: ms, none), some rest) := by
  have hquote : skipBlanks ('"' :: key) = '"' :: key := skipBlanks_cons (by decide) _
  have hcolon : skipBlanks (':' :: ' ' :: (cs ++ more)) = ':' :: ' ' :: (cs ++ more) :=
    skipBlanks_cons (by decide) _
  cases start with
  | true =>
    have hskip : skipBlanks (leads true ++ (newLine n ++ '"' :: key)) = '"' :: key := by
      rw [leads, if_pos rfl, List.nil_append, skipBlanks_newLine, hquote]
    rw [scanMembers, hskip]
    split
    case h_1 h => cases h
    case h_2 h => exact absurd (List.cons.inj h).1 (by decide)
    case h_3 h =>
      obtain ⟨rfl, rfl⟩ := List.cons.inj h
      simp only [if_true, hquote, hkey, hfault, hcolon, scanDocument_blank, hd, hmore]
  | false =>
    have hskip : skipBlanks (leads false ++ (newLine n ++ '"' :: key)) =
        ',' :: (newLine n ++ '"' :: key) := skipBlanks_cons (by decide) _
    rw [scanMembers, hskip]
    split
    case h_1 h => cases h
    case h_2 h => exact absurd (List.cons.inj h).1 (by decide)
    case h_3 h =>
      obtain ⟨rfl, rfl⟩ := List.cons.inj h
      simp only [Bool.false_eq_true, if_false, if_true, skipBlanks_newLine, hquote, hkey, hfault,
        hcolon, scanDocument_blank, hd, hmore]

def ShowMembers (entries : List (String × Json)) (ms : List (Literal × Document)) : Prop :=
  List.Forall₂ (fun e m ↦ m.1.read = .ok e.1) entries ms ∧
    List.Forall₂ (fun e m ↦ Shows e.2 m.2) entries ms

theorem exists_scanMembers {n : Nat} {entries : List (String × Json)} (hne : entries ≠ [])
    (hentries : ∀ e ∈ entries, ReadsBack depth (n + 1) e.2) (start : Bool)
    (hfuel : (prettyEntries n entries).length ≤ fuel) (rest : List Char) :
    ∃ ms, ShowMembers entries ms ∧
      scanMembers fuel depth start (leads start ++ (prettyEntries n entries ++ rest)) =
        ((ms, none), some rest) := by
  induction entries generalizing fuel start with
  | nil => exact absurd rfl hne
  | cons e es ih =>
    obtain ⟨k, j⟩ := e
    obtain ⟨hj, hes⟩ := List.forall_mem_cons.1 hentries
    change ReadsBack depth (n + 1) j at hj
    obtain ⟨l, hread, hfault, hkey⟩ := exists_scan_quote k
    cases es with
    | nil =>
      simp only [prettyEntries, List.length_append, newLine, List.length_cons] at hfuel
      obtain ⟨fuel, rfl⟩ : ∃ f, fuel = f + 2 := ⟨fuel - 2, by omega⟩
      obtain ⟨d, hd, hscan⟩ := hj (fuel + 1) (newLine n ++ ('}' :: rest)) (by omega)
        (ends_newLine n _)
      have hend : scanMembers (fuel + 1) depth false (newLine n ++ ('}' :: rest)) =
          (([], none), some rest) := by
        rw [scanMembers, skipBlanks_newLine]
        rfl
      refine ⟨[(l, d)], ⟨.cons hread .nil, .cons hd .nil⟩, ?_⟩
      simp only [prettyEntries, List.append_assoc, List.cons_append, List.nil_append]
      rw [(hkey _).1]
      exact scanMembers_member hfault (hkey _).2 hscan hend
    | cons e' es =>
      simp only [prettyEntries, List.length_append, newLine, List.length_cons] at hfuel
      obtain ⟨fuel, rfl⟩ : ∃ f, fuel = f + 1 := ⟨fuel - 1, by omega⟩
      obtain ⟨d, hd, hscan⟩ := hj fuel (',' :: (prettyEntries n (e' :: es) ++ rest)) (by omega)
        (ends_comma _)
      have hmore : (prettyEntries n (e' :: es)).length ≤ fuel := by omega
      obtain ⟨ms, hms, hmore⟩ := ih (by simp) hes false hmore
      refine ⟨(l, d) :: ms, ⟨.cons hread hms.1, .cons hd hms.2⟩, ?_⟩
      simp only [prettyEntries, List.append_assoc, List.cons_append]
      rw [(hkey _).1]
      exact scanMembers_member hfault (hkey _).2 hscan hmore

theorem readsBack_array {items : List Json} {indent : Nat} (hdepth : depth < maxDepth)
    (hstarts : ∀ j ∈ items, Starts (pretty (indent + 1) j))
    (hitems : ∀ j ∈ items, ReadsBack (depth + 1) (indent + 1) j) :
    ReadsBack depth indent (.array items) := by
  intro fuel rest hfuel _
  have hopen : isBlank '[' = false := by decide
  cases items with
  | nil =>
    obtain ⟨fuel, rfl⟩ : ∃ f, fuel = f + 2 := ⟨fuel - 2, by simp [pretty] at hfuel; omega⟩
    refine ⟨_, .array .nil, ?_⟩
    simp only [pretty, List.cons_append, List.nil_append]
    rw [scanDocument, skipBlanks_cons hopen]
    simp only [scanItems, skipBlanks_cons (c := ']') (by decide), if_pos hdepth]
  | cons j js =>
    simp only [pretty, List.length_cons] at hfuel
    obtain ⟨fuel, rfl⟩ : ∃ f, fuel = f + 1 := ⟨fuel - 1, by omega⟩
    have hitem : (prettyItems indent (j :: js)).length ≤ fuel := by omega
    obtain ⟨ds, hds, hscan⟩ := exists_scanItems (by simp) hstarts hitems true hitem rest
    rw [leads, if_pos rfl, List.nil_append] at hscan
    refine ⟨_, .array hds, ?_⟩
    simp only [pretty, List.cons_append]
    rw [scanDocument, skipBlanks_cons hopen]
    simp only [hscan, if_pos hdepth]

theorem readsBack_object {entries : List (String × Json)} {indent : Nat}
    (hdepth : depth < maxDepth)
    (hentries : ∀ e ∈ entries, ReadsBack (depth + 1) (indent + 1) e.2) :
    ReadsBack depth indent (.object entries) := by
  intro fuel rest hfuel _
  have hopen : isBlank '\x7b' = false := by decide
  cases entries with
  | nil =>
    obtain ⟨fuel, rfl⟩ : ∃ f, fuel = f + 2 := ⟨fuel - 2, by simp [pretty] at hfuel; omega⟩
    refine ⟨_, .object .nil .nil, ?_⟩
    simp only [pretty, List.cons_append, List.nil_append]
    rw [scanDocument, skipBlanks_cons hopen]
    simp only [scanMembers, skipBlanks_cons (c := '\x7d') (by decide), if_pos hdepth]
  | cons e es =>
    simp only [pretty, List.length_cons] at hfuel
    obtain ⟨fuel, rfl⟩ : ∃ f, fuel = f + 1 := ⟨fuel - 1, by omega⟩
    have hentry : (prettyEntries indent (e :: es)).length ≤ fuel := by omega
    obtain ⟨ms, hms, hscan⟩ := exists_scanMembers (by simp) hentries true hentry rest
    rw [leads, if_pos rfl, List.nil_append] at hscan
    refine ⟨_, .object hms.1 hms.2, ?_⟩
    simp only [pretty, List.cons_append]
    rw [scanDocument, skipBlanks_cons hopen]
    simp only [hscan, if_pos hdepth]

theorem readsBack_word {j : Json} {d : Document} (hd : Shows j d) {indent : Nat} {c : Char}
    {word : List Char} (hj : pretty indent j = c :: word)
    (hscan : ∀ fuel cs, scanDocument (fuel + 1) depth (c :: cs) = scanWord d word cs) :
    ReadsBack depth indent j := by
  have hword : ∀ (word rest : List Char), scanWord d word (word ++ rest) = (d, some rest) := by
    intro word rest
    induction word with
    | nil => rfl
    | cons w word ih => exact (if_pos rfl).trans ih
  intro fuel rest hfuel _
  rw [hj, List.length_cons] at hfuel
  obtain ⟨fuel, rfl⟩ : ∃ f, fuel = f + 1 := ⟨fuel - 1, by omega⟩
  exact ⟨d, hd, by rw [hj, List.cons_append, hscan, hword]⟩

theorem Plain.readsBack {room : Nat} {j : Json} (h : Plain room j) {depth : Nat}
    (hdepth : depth + room ≤ maxDepth) (indent : Nat) : ReadsBack depth indent j := by
  induction h generalizing depth indent with
  | null => exact readsBack_word .null rfl fun _ _ ↦ by rw [scanDocument]; rfl
  | bool b =>
    cases b with
    | true => exact readsBack_word (.bool true) rfl fun _ _ ↦ by rw [scanDocument]; rfl
    | false => exact readsBack_word (.bool false) rfl fun _ _ ↦ by rw [scanDocument]; rfl
  | integer hk => exact readsBack_integer hk depth indent
  | string s => exact readsBack_string s depth indent
  | array h ih =>
    exact readsBack_array (by omega) (fun j hj ↦ starts_pretty (h j hj) (indent + 1))
      fun j hj ↦ ih j hj (by omega) (indent + 1)
  | object h ih => exact readsBack_object (by omega) fun e he ↦ ih e he (by omega) (indent + 1)

/-- A printed value is read back as a document that shows it, with nothing behind it. -/
theorem exists_ofText_toPretty {j : Json} (h : Plain maxDepth j) :
    ∃ d, Shows j d ∧ Source.ofText j.toPretty = { document := d, trailing := false } := by
  obtain ⟨d, hd, hscan⟩ := h.readsBack (show 0 + maxDepth ≤ maxDepth by omega) 0
    (2 * (pretty 0 j).length + 2) [] (by omega) ends_nil
  rw [List.append_nil] at hscan
  refine ⟨d, hd, ?_⟩
  simp only [Source.ofText, toPretty, String.toList_ofList, hscan]
  rfl

end Forex.Json
