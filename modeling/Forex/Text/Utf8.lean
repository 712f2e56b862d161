namespace Forex.Text

def replacement : Char := Char.ofNat 0xfffd

/-- What the bytes so far ask of the next one: how many are missing, the range that the next one has
to be in, and the code point so far. -/
structure Pending where
  missing : Nat
  least : Nat
  greatest : Nat
  code : Nat

def lead (b : Nat) : Char ⊕ Pending :=
  if b < 0x80 then .inl (Char.ofNat b)
  else if b < 0xc2 then .inl replacement
  else if b < 0xe0 then .inr ⟨1, 0x80, 0xbf, b - 0xc0⟩
  else if b = 0xe0 then .inr ⟨2, 0xa0, 0xbf, 0⟩
  else if b = 0xed then .inr ⟨2, 0x80, 0x9f, 0xd⟩
  else if b < 0xf0 then .inr ⟨2, 0x80, 0xbf, b - 0xe0⟩
  else if b = 0xf0 then .inr ⟨3, 0x90, 0xbf, 0⟩
  else if b < 0xf4 then .inr ⟨3, 0x80, 0xbf, b - 0xf0⟩
  else if b = 0xf4 then .inr ⟨3, 0x80, 0x8f, 4⟩
  else .inl replacement

def begin (b : Nat) (continue_ : Option Pending → List Char) : List Char :=
  match lead b with
  | .inl c => c :: continue_ none
  | .inr p => continue_ (some p)

def decodeLossy : Option Pending → List UInt8 → List Char
  | none, [] => []
  | some _, [] => [replacement]
  | none, b :: bs => begin b.toNat fun p ↦ decodeLossy p bs
  | some p, b :: bs =>
    if p.least ≤ b.toNat ∧ b.toNat ≤ p.greatest then
      let code := p.code * 64 + (b.toNat - 0x80)
      if p.missing ≤ 1 then Char.ofNat code :: decodeLossy none bs
      else decodeLossy (some ⟨p.missing - 1, 0x80, 0xbf, code⟩) bs
    else replacement :: begin b.toNat fun p ↦ decodeLossy p bs

def ofBytesLossy (bytes : ByteArray) : String := String.ofList (decodeLossy none bytes.toList)

def withoutMark (bytes : List UInt8) : List UInt8 :=
  if bytes.take 3 = [0xef, 0xbb, 0xbf] then bytes.drop 3 else bytes

end Forex.Text
