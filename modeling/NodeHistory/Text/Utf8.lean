/-!
Reading bytes as characters of variable length. A first byte tells how many bytes follow and, so
that no character has two forms, what the second one may be; the others lie between 0x80 and
0xbf. Bytes that begin no character, and the beginnings of characters that are not completed, are
dropped, and reading goes on with the byte that did not fit.
-/

namespace NodeHistory.Text.Utf8

/-- A character part way through: its leading bits, the bytes still owed and the bounds of the
next one. -/
structure Partial where
  bits : Nat
  owed : Nat
  low : Nat := 0x80
  high : Nat := 0xbf
deriving DecidableEq, Repr

inductive Step where
  | char (c : Char)
  | owing (p : Partial)
  | invalid

/-- What a byte begins. -/
def start (b : Nat) : Step :=
  if b < 0x80 then .char (Char.ofNat b)
  else if b < 0xc2 then .invalid
  else if b < 0xe0 then .owing ⟨b - 0xc0, 1, 0x80, 0xbf⟩
  else if b = 0xe0 then .owing ⟨0, 2, 0xa0, 0xbf⟩
  else if b = 0xed then .owing ⟨0xd, 2, 0x80, 0x9f⟩
  else if b < 0xf0 then .owing ⟨b - 0xe0, 2, 0x80, 0xbf⟩
  else if b = 0xf0 then .owing ⟨0, 3, 0x90, 0xbf⟩
  else if b < 0xf4 then .owing ⟨b - 0xf0, 3, 0x80, 0xbf⟩
  else if b = 0xf4 then .owing ⟨4, 3, 0x80, 0x8f⟩
  else .invalid

/-- What a byte makes of a character part way through. -/
def Partial.extend (p : Partial) (b : Nat) : Step :=
  if p.low ≤ b ∧ b ≤ p.high then
    let bits := p.bits * 0x40 + (b - 0x80)
    if p.owed = 1 then .char (Char.ofNat bits) else .owing { bits, owed := p.owed - 1 }
  else .invalid

def decodeFrom : Option Partial → List UInt8 → List Char
  | _, [] => []
  | none, b :: rest =>
    match start b.toNat with
    | .char c => c :: decodeFrom none rest
    | .owing p => decodeFrom (some p) rest
    | .invalid => decodeFrom none rest
  | some p, b :: rest =>
    match p.extend b.toNat with
    | .char c => c :: decodeFrom none rest
    | .owing p => decodeFrom (some p) rest
    | .invalid =>
      match start b.toNat with
      | .char c => c :: decodeFrom none rest
      | .owing p => decodeFrom (some p) rest
      | .invalid => decodeFrom none rest

def decode (bytes : List UInt8) : List Char := decodeFrom none bytes

end NodeHistory.Text.Utf8
