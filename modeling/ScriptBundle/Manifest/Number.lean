import ScriptBundle.Decimal.Shortest
import ScriptBundle.Manifest.Reader

/-!
# Numbers in a manifest

No field of a manifest is a number, so a number is read only to name it in an error or to pass over
it. A whole number is kept while it fits in 64 bits; anything else becomes a double precision
number, of which the digits that fit in 64 bits count.
-/

namespace ScriptBundle.Manifest

/-- The first number that does not fit in 64 bits, and the first that no exponent may reach. -/
def wordLimit : Nat := Binary.twoTo 64
def exponentLimit : Nat := Binary.twoTo 31

def isDigit (c : Char) : Bool := c.isDigit

def digitValue (c : Char) : Nat := c.toNat - '0'.toNat

/-- The power of ten as a double precision number. -/
def powerOfTen (n : Nat) : Option Binary := Binary.round (Decimal.tenTo n) 1

/-- Scales by a power of ten: once, or after dividing by ten to the 308th as often as needed. -/
def scale (b : Binary) (exponent : Int) : Option Binary := do
  if exponent.natAbs ≤ 308 then
    let ten ← powerOfTen exponent.natAbs
    if 0 ≤ exponent then b.mul ten else b.div ten
  else if b.significand = 0 then some b
  else if 0 ≤ exponent then none
  else scale (← b.div (← powerOfTen 308)) (exponent + 308)
termination_by exponent.natAbs

namespace Reader

def isExponentMark (c : Char) : Bool := c == 'e' || c == 'E'

/-- The real number with these parts. -/
def real (negative : Bool) (significand : Nat) (exponent : Int) : Reader Found := do
  match (Binary.round significand 1).bind (scale · exponent) with
  | some b => return .real (Decimal.renderSigned negative b)
  | none => fail .numberOutOfRange

/-- The digits of an exponent; none once they reach the limit. -/
def exponentDigits (value : Nat) : List Char → Reader (Option Nat)
  | [] => return some value
  | c :: rest => do
    skip
    let value := value * 10 + digitValue c
    if exponentLimit ≤ value then return none else exponentDigits value rest

/-- What comes from the exponent mark on. -/
def exponent (negative : Bool) (significand : Nat) (start : Int) : Reader Found := do
  skip
  let sign ← peek?
  if sign = some '+' ∨ sign = some '-' then skip
  let down := sign = some '-'
  match ← next? with
  | none => fail .endInValue
  | some c =>
    if !isDigit c then fail .invalidNumber
    else
      let rest := (← get).takeWhile fun b => isDigit (Char.ofNat b.toNat)
      match ← exponentDigits (digitValue c) (rest.map fun b => Char.ofNat b.toNat) with
      | some value => real negative significand (if down then start - value else start + value)
      | none =>
        if significand ≠ 0 ∧ ¬down then fail .numberOutOfRange
        else
          let _ ← takeWhile isDigit
          return .real (if negative then "-0.0" else "0.0")

/-- Takes digits while the number fits in 64 bits. -/
def digits (value count : Nat) : List Char → Reader (Nat × Nat × Bool)
  | [] => return (value, count, true)
  | c :: rest => do
    let value' := value * 10 + digitValue c
    if wordLimit ≤ value' then return (value, count, false)
    else
      skip
      digits value' (count + 1) rest

def digitsAhead : Reader (List Char) := do
  return ((← get).map fun b => Char.ofNat b.toNat).takeWhile isDigit

/-- What comes from the point on. -/
def fraction (negative : Bool) (significand : Nat) (start : Int) : Reader Found := do
  skip
  let (significand, count, complete) ← digits significand 0 (← digitsAhead)
  if complete && count == 0 then
    match ← peek? with
    | some _ => failAtNext .invalidNumber
    | none => failAtNext .endInValue
  else
    let _ ← takeWhile isDigit
    match ← peek? with
    | some c =>
      if isExponentMark c then exponent negative significand (start - count)
      else real negative significand (start - count)
    | none => real negative significand (start - count)

/-- What comes after the digits of a whole number. -/
def afterDigits (negative : Bool) (significand : Nat) (overflow : Option Nat) : Reader Found := do
  let start : Int := overflow.getD 0
  match ← peek? with
  | some '.' => fraction negative significand start
  | some c =>
    if isExponentMark c then exponent negative significand start else whole
  | none => whole
where
  whole : Reader Found :=
    match overflow with
    | some count => real negative significand count
    | none =>
      if negative ∧ (significand = 0 ∨ Binary.twoTo 63 < significand) then real true significand 0
      else return .integer negative significand

/-- A number whose sign has been taken. -/
def number (negative : Bool) : Reader Found := do
  match ← next? with
  | none => fail .endInValue
  | some '0' =>
    match ← peek? with
    | some c => if isDigit c then failAtNext .invalidNumber else afterDigits negative 0 none
    | none => afterDigits negative 0 none
  | some c =>
    if !isDigit c then fail .invalidNumber
    else
      let (significand, _, complete) ← digits (digitValue c) 0 (← digitsAhead)
      if complete then afterDigits negative significand none
      else
        let more ← takeWhile isDigit
        afterDigits negative significand (some more.length)

/-- Passes over an exponent. -/
def skipExponent : Reader Unit := do
  skip
  let sign ← peek?
  if sign = some '+' ∨ sign = some '-' then skip
  match ← next? with
  | some c =>
    if isDigit c then
      let _ ← takeWhile isDigit
    else fail .invalidNumber
  | none => fail .invalidNumber

def skipFraction : Reader Unit := do
  skip
  if (← takeWhile isDigit).isEmpty then failAtNext .invalidNumber
  if (← peek?).any isExponentMark then skipExponent

/-- Passes over a number whose sign has been taken. -/
def skipNumber : Reader Unit := do
  match ← next? with
  | some '0' => if (← peek?).any isDigit then failAtNext .invalidNumber
  | some c =>
    if isDigit c then
      let _ ← takeWhile isDigit
    else fail .invalidNumber
  | none => fail .invalidNumber
  match ← peek? with
  | some '.' => skipFraction
  | some c => if isExponentMark c then skipExponent
  | none => return

end Reader
end ScriptBundle.Manifest
