import ScriptBundle.Manifest.Reader
import ScriptBundle.Text.Utf8

/-!
# Strings in a manifest

A string is read when a field or an error needs it, and passed over otherwise. Passing over is more
lenient: it does not pair surrogates. A control character is taken before it is refused only when
the string is read.
-/

namespace ScriptBundle.Manifest.Reader

def hexValue? (b : UInt8) : Option Nat :=
  let n := b.toNat
  if 48 ≤ n ∧ n ≤ 57 then some (n - 48)
  else if 65 ≤ n ∧ n ≤ 70 then some (n - 55)
  else if 97 ≤ n ∧ n ≤ 102 then some (n - 87)
  else none

/-- Four hexadecimal digits. -/
def codeUnit : Reader Nat := do
  match ← get with
  | a :: b :: c :: d :: rest =>
    set rest
    match [a, b, c, d].mapM hexValue? with
    | some digits => return digits.foldl (fun n digit => n * 16 + digit) 0
    | none => fail .invalidEscape
  | _ =>
    set ([] : List UInt8)
    fail .endInString

/-- Takes a byte that must be this character. -/
def pairingByte (c : Char) : Reader Unit := do
  match ← next? with
  | none => fail .endInString
  | some d => if c = d then return else fail .unpairedSurrogate

/-- The character of a code unit, and of a second one where the first is a leading surrogate. -/
def escapedCharacter : Reader Char := do
  let unit ← codeUnit
  if 0xdc00 ≤ unit ∧ unit ≤ 0xdfff then fail .loneSurrogate
  else if unit < 0xd800 ∨ 0xdbff < unit then return Char.ofNat unit
  else
    pairingByte '\\'
    pairingByte 'u'
    let second ← codeUnit
    if second < 0xdc00 ∨ 0xdfff < second then fail .loneSurrogate
    else return Char.ofNat ((unit - 0xd800) * 0x400 + (second - 0xdc00) + 0x10000)

def shortEscape? : Char → Option Char
  | '"' => some '"'
  | '\\' => some '\\'
  | '/' => some '/'
  | 'b' => some '\x08'
  | 'f' => some '\x0c'
  | 'n' => some '\n'
  | 'r' => some '\r'
  | 't' => some '\t'
  | _ => none

/-- What an escape stands for; its backslash has been taken. -/
def escape : Reader Char := do
  match ← next? with
  | none => fail .endInString
  | some 'u' => escapedCharacter
  | some c =>
    match shortEscape? c with
    | some d => return d
    | none => fail .invalidEscape

def skipEscape : Reader Unit := do
  match ← next? with
  | none => fail .endInString
  | some 'u' =>
    let _ ← codeUnit
  | some c => if (shortEscape? c).isNone then fail .invalidEscape

/-- A character that stands for itself in a string. -/
def isPlain (b : UInt8) : Bool := b != 34 && b != 92 && 32 ≤ b

/-- The bytes of a string whose opening quote has been taken. The fuel bounds the number of
escapes. -/
def stringBytes : Nat → Reader (List UInt8)
  | 0 => fail .endInString
  | fuel + 1 => do
    let plain := (← get).takeWhile isPlain
    modify (·.drop plain.length)
    match ← next? with
    | none => fail .endInString
    | some '"' => return plain
    | some '\\' =>
      let c ← escape
      return plain ++ Utf8.encode [c] ++ (← stringBytes fuel)
    | some _ => fail .controlCharacter

def string : Reader String := do
  return String.ofList (Utf8.decodeLossy (← stringBytes ((← get).length + 1)))

def skipStringFrom : Nat → Reader Unit
  | 0 => fail .endInString
  | fuel + 1 => do
    modify (·.dropWhile isPlain)
    match ← peek? with
    | none => fail .endInString
    | some '"' => skip
    | some '\\' =>
      skip
      skipEscape
      skipStringFrom fuel
    | some _ => fail .controlCharacter

/-- Passes over a string whose opening quote has been taken. -/
def skipString : Reader Unit := do skipStringFrom ((← get).length + 1)

end ScriptBundle.Manifest.Reader
