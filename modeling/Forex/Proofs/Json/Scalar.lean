import Forex.Json.Decode
import Forex.Proofs.Text.Digits
import Mathlib.Tactic.SplitIfs

namespace Forex.Json

def Piece.Shows (p : Piece) (c : Char) : Prop :=
  ∀ fault ps, readPieces fault (p :: ps) = (readPieces fault ps).map (c :: ·)

theorem Piece.shows_char (c : Char) : (Piece.char c).Shows c := by
  intro fault ps
  rw [readPieces]
  cases readPieces fault ps <;> rfl

theorem Piece.shows_unit {c : Char} (h : c.toNat < 32) : (Piece.unit c.toNat).Shows c := by
  intro fault ps
  have hlow : isLowUnit c.toNat = false := by
    simp only [isLowUnit, Bool.and_eq_false_iff, decide_eq_false_iff_not]
    omega
  have hhigh : isHighUnit c.toNat = false := by
    simp only [isHighUnit, Bool.and_eq_false_iff, decide_eq_false_iff_not]
    omega
  rw [readPieces.eq_def]
  simp only [hlow, hhigh, Bool.false_eq_true, if_false, Char.ofNat_toNat]
  cases readPieces fault ps <;> rfl

theorem hexValue?_hexDigit (n : Nat) : hexValue? (hexDigit n) = some (n % 16) := by
  have h : ∀ d < 16, hexValue? d.digitChar = some d := by decide
  exact h (n % 16) (Nat.mod_lt n (by decide))

theorem unitOfHex?_hexDigit {n : Nat} (h : n < 32) :
    unitOfHex? '0' '0' (hexDigit (n / 16)) (hexDigit n) = some n := by
  have h0 : hexValue? '0' = some 0 := by decide
  have hn : ((0 * 16 + 0) * 16 + n / 16 % 16) * 16 + n % 16 = n := by omega
  simp only [unitOfHex?, h0, hexValue?_hexDigit, Option.bind_eq_bind, Option.bind_some, hn]
  rfl

theorem Literal.scan_plain {c : Char} (hquote : c ≠ '"') (hslash : c ≠ '\\')
    (hcontrol : ¬c.toNat < 32) (rest : List Char) :
    Literal.scan (c :: rest) = Literal.cons (.char c) (Literal.scan rest) := by
  rw [Literal.scan.eq_def]
  split
  case h_2 h => exact absurd (List.cons.inj h).1 hquote
  case h_3 h => exact absurd (List.cons.inj h).1 hslash
  case h_4 h => exact absurd (List.cons.inj h).1 hslash
  case h_5 h => exact absurd (List.cons.inj h).1 hslash
  case h_6 h =>
    obtain ⟨rfl, rfl⟩ := List.cons.inj h
    exact if_neg hcontrol
  case h_1 h => cases h

theorem exists_scan_escape (c : Char) :
    ∃ p : Piece, p.Shows c ∧
      ∀ rest, Literal.scan (escape c ++ rest) = Literal.cons p (Literal.scan rest) := by
  have short {n : Nat} (h : c.toNat = n) : c = Char.ofNat n := by
    rw [← h, Char.ofNat_toNat]
  unfold escape
  split_ifs with hquote hslash h8 h9 h10 h12 h13 hcontrol
  · exact ⟨.char c, Piece.shows_char c, fun rest ↦ by rw [hquote]; rfl⟩
  · exact ⟨.char c, Piece.shows_char c, fun rest ↦ by rw [hslash]; rfl⟩
  · exact ⟨.char c, Piece.shows_char c, fun rest ↦ by rw [short h8]; rfl⟩
  · exact ⟨.char c, Piece.shows_char c, fun rest ↦ by rw [short h9]; rfl⟩
  · exact ⟨.char c, Piece.shows_char c, fun rest ↦ by rw [short h10]; rfl⟩
  · exact ⟨.char c, Piece.shows_char c, fun rest ↦ by rw [short h12]; rfl⟩
  · exact ⟨.char c, Piece.shows_char c, fun rest ↦ by rw [short h13]; rfl⟩
  · refine ⟨.unit c.toNat, Piece.shows_unit hcontrol, ?_⟩
    intro rest
    simp only [List.cons_append, List.nil_append, Literal.scan, unitOfHex?_hexDigit hcontrol]
  · exact ⟨.char c, Piece.shows_char c, Literal.scan_plain hquote hslash hcontrol⟩

theorem exists_scan_flatMap_escape (cs : List Char) :
    ∃ ps, readPieces none ps = .ok cs ∧
      ∀ rest, Literal.scan (cs.flatMap escape ++ '"' :: rest) = (⟨ps, none⟩, rest) := by
  induction cs with
  | nil => exact ⟨[], rfl, fun _ ↦ rfl⟩
  | cons c cs ih =>
    obtain ⟨p, hp, hscan⟩ := exists_scan_escape c
    obtain ⟨ps, hps, hscans⟩ := ih
    refine ⟨p :: ps, by rw [hp, hps]; rfl, ?_⟩
    intro rest
    rw [List.flatMap_cons, List.append_assoc, hscan, hscans]
    rfl

theorem exists_scan_quote (s : String) :
    ∃ l : Literal, l.read = .ok s ∧ l.fault = none ∧
      ∀ rest, quote s ++ rest = '"' :: (quote s ++ rest).tail ∧
        Literal.scan (quote s ++ rest).tail = (l, rest) := by
  obtain ⟨ps, hps, hscan⟩ := exists_scan_flatMap_escape s.toList
  refine ⟨⟨ps, none⟩, ?_, rfl, fun rest ↦ ⟨rfl, ?_⟩⟩
  · rw [Literal.read, hps]
    exact congrArg Except.ok s.ofList_toList
  · have h : (quote s ++ rest).tail = s.toList.flatMap escape ++ '"' :: rest := by
      simp [quote, quoteChars]
    rw [h, hscan]

def Ends (rest : List Char) : Prop := ∀ c ∈ rest.head?, c = ',' ∨ c = '\n'

theorem ends_nil : Ends [] := fun _ h ↦ nomatch h

theorem ends_comma (cs : List Char) : Ends (',' :: cs) := by
  intro c h
  obtain rfl : ',' = c := by simpa using h
  exact .inl rfl

theorem ends_newLine (depth : Nat) (cs : List Char) : Ends (newLine depth ++ cs) := by
  intro c h
  obtain rfl : '\n' = c := by simpa [newLine] using h
  exact .inr rfl

variable {rest : List Char}

theorem Ends.cases (h : Ends rest) :
    rest = [] ∨ (∃ cs, rest = ',' :: cs) ∨ ∃ cs, rest = '\n' :: cs := by
  cases rest with
  | nil => exact .inl rfl
  | cons c cs =>
    rcases h c rfl with rfl | rfl
    · exact .inr (.inl ⟨cs, rfl⟩)
    · exact .inr (.inr ⟨cs, rfl⟩)

theorem digits_append {ds : List Char} (hds : ∀ c ∈ ds, c.isDigit) (hrest : Ends rest) :
    digits (ds ++ rest) = (ds.map fun c ↦ c.toNat - 48, rest) := by
  induction ds with
  | nil =>
    cases rest with
    | nil => rfl
    | cons c cs =>
      have hc : c.isDigit = false := by rcases hrest c rfl with rfl | rfl <;> decide
      simp [digits, hc]
  | cons c ds ih =>
    obtain ⟨hc, hds⟩ := List.forall_mem_cons.1 hds
    simp [digits, hc, ih hds]

def digitValues (n : Nat) : List Nat := (Nat.toDigits 10 n).map fun c ↦ c.toNat - 48

theorem length_digitValues {n : Nat} (h : (digitValues n).head? = some 0) :
    (digitValues n).length = 1 := by
  obtain ⟨d, cs, hd, hzero, hcons⟩ := Text.exists_toDigits_eq_cons n
  simp only [digitValues, hcons, List.map_cons, List.head?_cons, Option.some.injEq,
    Nat.toNat_digitChar_sub_48_of_lt_ten hd] at h
  rw [hzero h, digitValues, Nat.toDigits_zero]
  rfl

theorem someDigits_toDigits (n : Nat) (hrest : Ends rest) :
    someDigits (Nat.toDigits 10 n ++ rest) = .ok (digitValues n, rest) := by
  rw [someDigits, digits_append (fun _ h ↦ Text.isDigit_of_mem_toDigits h) hrest]
  exact if_neg (by simp)

theorem Numeral.scanEnd_of_ends (n : Numeral) (hrest : Ends rest) :
    n.scanEnd rest = .ok (n, rest) := by
  rcases hrest.cases with rfl | ⟨cs, rfl⟩ | ⟨cs, rfl⟩ <;> rfl

theorem Numeral.scan_toDigits (negative : Bool) (n : Nat) (hrest : Ends rest) :
    Numeral.scan negative (Nat.toDigits 10 n ++ rest) =
      .ok ({ negative, whole := digitValues n }, rest) := by
  have hwhole : ¬((digitValues n).head? = some 0 ∧ (digitValues n).length ≠ 1) :=
    fun h ↦ h.2 (length_digitValues h.1)
  simp only [Numeral.scan, someDigits_toDigits n hrest]
  refine (if_neg hwhole).trans ?_
  rcases hrest.cases with rfl | ⟨cs, rfl⟩ | ⟨cs, rfl⟩ <;> exact scanEnd_of_ends _ hrest

theorem appendDigits_digitValues {n : Nat} (hn : n < twoTo 64) (ds : List Nat) :
    appendDigits 0 (digitValues n ++ ds) = appendDigits n ds := by
  induction n using Nat.strongRecOn generalizing ds with
  | ind n ih =>
    by_cases h : n < 10
    · simp [digitValues, Nat.toDigits_of_lt_base h, Nat.toNat_digitChar_sub_48_of_lt_ten h,
        appendDigits, hn]
    · have hmod : n % 10 < 10 := Nat.mod_lt n (by decide)
      have hdiv : 10 * (n / 10) + n % 10 = n := Nat.div_add_mod n 10
      have hsplit : digitValues n = digitValues (n / 10) ++ [n % 10] := by
        rw [digitValues, Nat.toDigits_of_base_le (by decide) (by omega), List.map_append,
          List.map_singleton, Nat.toNat_digitChar_sub_48_of_lt_ten hmod]
        rfl
      rw [hsplit, List.append_assoc, ih (n / 10) (by omega) (by omega), List.singleton_append,
        appendDigits, hdiv, if_pos hn]

def IsWord (k : Int) : Prop := -(twoTo 63 : Int) ≤ k ∧ k < twoTo 64

theorem read_natural {n : Nat} (h : n < twoTo 64) :
    Numeral.read { negative := false, whole := digitValues n } = .ok (.integer n) := by
  have hdigits := appendDigits_digitValues h []
  rw [List.append_nil] at hdigits
  simp [Numeral.read, Numeral.value?, hdigits, appendDigits]

theorem read_negative {n : Nat} (hn : n ≠ 0) (h : n ≤ twoTo 63) :
    Numeral.read { negative := true, whole := digitValues n } = .ok (.integer (-n)) := by
  have h63 : twoTo 63 < twoTo 64 := by decide
  have hdigits := appendDigits_digitValues (n := n) (by omega) []
  rw [List.append_nil] at hdigits
  simp [Numeral.read, Numeral.value?, hdigits, appendDigits, hn, Nat.not_lt.2 h]

end Forex.Json
