/-!
# UTF-8

A byte sequence is read into scalars: a character, or nothing for each longest run of bytes that
begins a character and breaks off. `decode?` insists on characters, `decodeLossy` puts a
replacement character for every break.

The lead byte fixes how many bytes follow and the range of the first of them; this range keeps out
overlong forms, surrogates and everything above U+10FFFF.
-/

namespace ScriptBundle.Utf8

/-- A character of which some bytes are still to come. -/
structure Pending where
  /-- The bits read so far. -/
  bits : Nat
  /-- How many bytes follow the next one. -/
  more : Nat
  /-- The least and the greatest value of the next byte. -/
  low : Nat
  high : Nat
  deriving DecidableEq, Repr

inductive Lead where
  | ascii (c : Char)
  | starts (p : Pending)
  | invalid
  deriving DecidableEq, Repr

def lead (b : Nat) : Lead :=
  if b ≤ 0x7f then .ascii (Char.ofNat b)
  else if b < 0xc2 then .invalid
  else if b ≤ 0xdf then .starts ⟨b - 0xc0, 0, 0x80, 0xbf⟩
  else if b = 0xe0 then .starts ⟨0, 1, 0xa0, 0xbf⟩
  else if b = 0xed then .starts ⟨0xd, 1, 0x80, 0x9f⟩
  else if b ≤ 0xef then .starts ⟨b - 0xe0, 1, 0x80, 0xbf⟩
  else if b = 0xf0 then .starts ⟨0, 2, 0x90, 0xbf⟩
  else if b ≤ 0xf3 then .starts ⟨b - 0xf0, 2, 0x80, 0xbf⟩
  else if b = 0xf4 then .starts ⟨4, 2, 0x80, 0x8f⟩
  else .invalid

/-- Reads on from a character that may be open. -/
def scalarsFrom : Option Pending → List UInt8 → List (Option Char)
  | none, [] => []
  | some _, [] => [none]
  | none, b :: rest =>
    match lead b.toNat with
    | .ascii c => some c :: scalarsFrom none rest
    | .starts p => scalarsFrom (some p) rest
    | .invalid => none :: scalarsFrom none rest
  | some p, b :: rest =>
    if p.low ≤ b.toNat ∧ b.toNat ≤ p.high then
      let bits := p.bits * 64 + (b.toNat - 0x80)
      match p.more with
      | 0 => some (Char.ofNat bits) :: scalarsFrom none rest
      | more + 1 => scalarsFrom (some ⟨bits, more, 0x80, 0xbf⟩) rest
    else
      match lead b.toNat with
      | .ascii c => none :: some c :: scalarsFrom none rest
      | .starts p => none :: scalarsFrom (some p) rest
      | .invalid => none :: none :: scalarsFrom none rest

def scalars (bytes : List UInt8) : List (Option Char) := scalarsFrom none bytes

/-- The text, if every byte belongs to a character. -/
def decode? (bytes : List UInt8) : Option (List Char) := (scalars bytes).mapM id

/-- The text with a replacement character for every break. -/
def decodeLossy (bytes : List UInt8) : List Char := (scalars bytes).map (·.getD '\ufffd')

def encode (text : List Char) : List UInt8 := text.flatMap String.utf8EncodeChar

@[simp] theorem encode_append (a b : List Char) : encode (a ++ b) = encode a ++ encode b :=
  List.flatMap_append

end ScriptBundle.Utf8
