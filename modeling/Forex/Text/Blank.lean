namespace Forex.Text

/-- The characters with the Unicode property `White_Space`. -/
def isBlank (c : Char) : Bool :=
  let n := c.toNat
  (9 ≤ n && n ≤ 13) || n == 0x20 || n == 0x85 || n == 0xa0 || n == 0x1680 ||
    (0x2000 ≤ n && n ≤ 0x200a) || n == 0x2028 || n == 0x2029 || n == 0x202f || n == 0x205f ||
    n == 0x3000

variable {α : Type} {p : α → Bool} {l : List α}

def dropEndWhile (p : α → Bool) (l : List α) : List α := (l.reverse.dropWhile p).reverse

def trimWhile (p : α → Bool) (l : List α) : List α := dropEndWhile p (l.dropWhile p)

theorem dropWhile_eq_self (h : ∀ a ∈ l.head?, p a = false) : l.dropWhile p = l := by
  cases l with
  | nil => rfl
  | cons a l => simp [h a (by simp)]

theorem head?_dropWhile_not : ∀ a ∈ (l.dropWhile p).head?, p a = false := by
  induction l with
  | nil => simp
  | cons b l ih =>
    rw [List.dropWhile_cons]
    split
    · exact ih
    · rename_i h
      intro a ha
      obtain rfl : b = a := by simpa using ha
      simpa using h

theorem dropEndWhile_prefix : dropEndWhile p l <+: l := by
  have h : l.reverse.dropWhile p <:+ l.reverse := List.dropWhile_suffix p
  simpa [dropEndWhile] using List.reverse_prefix.2 h

theorem dropEndWhile_idem : dropEndWhile p (dropEndWhile p l) = dropEndWhile p l := by
  simp only [dropEndWhile, List.reverse_reverse]
  rw [dropWhile_eq_self head?_dropWhile_not]

theorem trimWhile_trimWhile : trimWhile p (trimWhile p l) = trimWhile p l := by
  have h : (trimWhile p l).dropWhile p = trimWhile p l := by
    apply dropWhile_eq_self
    intro a ha
    obtain ⟨t, ht⟩ := dropEndWhile_prefix (p := p) (l := l.dropWhile p)
    apply head?_dropWhile_not (l := l)
    rw [← ht, List.head?_append]
    change (trimWhile p l).head?.or _ = some a
    rw [Option.mem_def.1 ha]
    rfl
  rw [show trimWhile p (trimWhile p l) = dropEndWhile p ((trimWhile p l).dropWhile p) from rfl, h]
  exact dropEndWhile_idem

def trim (s : String) : String := String.ofList (trimWhile isBlank s.toList)

theorem trim_trim (s : String) : trim (trim s) = trim s := by
  simp [trim, trimWhile_trimWhile]

end Forex.Text
