import ScriptBundle.Decimal.Shortest
import ScriptBundle.Shell.Arithmetic

/-!
# Conversions of numbers and texts

The conversions of a format: a text or a number is written in a width, with a precision, with signs,
zeros and marks as the flags say. A number with a point is an exact quotient, which is rounded once,
to the nearest decimal of the places that are asked for and to the even one of two.
-/

namespace ScriptBundle.Shell

structure Conversion where
  flags : List Char := []
  width : Nat := 0
  precision : Option Nat := none
  deriving DecidableEq, Repr

/-- A number that a text can stand for. -/
inductive Amount where
  | finite (negative : Bool) (num den : Nat)
  | infinite (negative : Bool)
  | undefined
  deriving DecidableEq, Repr

namespace Conversion

def has (c : Conversion) (flag : Char) : Bool := c.flags.contains flag

def digitsOf (base n : Nat) : List Char := Nat.toDigits base n

/-- Fills a body up to the width: behind, or in front with zeros or blanks. -/
def fill (c : Conversion) (zeros : Bool) (sign body : List Char) : List Char :=
  let missing := c.width - (sign.length + body.length)
  if c.has '-' then sign ++ body ++ List.replicate missing ' '
  else if zeros then sign ++ List.replicate missing '0' ++ body
  else List.replicate missing ' ' ++ sign ++ body

def text (c : Conversion) (chars : List Char) : List Char :=
  c.fill false [] (match c.precision with
    | some n => chars.take n
    | none => chars)

/-- A whole number, with at least as many digits as the precision says. -/
def whole (c : Conversion) (sign digits : List Char) : List Char :=
  let least := c.precision.getD 1
  let digits := if digits = ['0'] ∧ least = 0 then [] else digits
  c.fill (c.has '0' && c.precision.isNone) sign (List.replicate (least - digits.length) '0' ++ digits)

def signOf (c : Conversion) (negative : Bool) : List Char :=
  if negative then ['-'] else if c.has '+' then ['+'] else if c.has ' ' then [' '] else []

def integer (c : Conversion) (n : Int) : List Char :=
  c.whole (c.signOf (n < 0)) (digitsOf 10 n.natAbs)

/-- A number without a sign, in the base of a letter. -/
def natural (c : Conversion) (letter : Char) (n : Nat) : List Char :=
  match letter with
  | 'o' =>
    let digits := digitsOf 8 n
    c.whole [] (if c.has '#' && digits.head? != some '0' then '0' :: digits else digits)
  | 'x' => c.whole (if c.has '#' && n != 0 then ['0', 'x'] else []) (digitsOf 16 n)
  | 'X' =>
    c.whole (if c.has '#' && n != 0 then ['0', 'X'] else []) ((digitsOf 16 n).map Char.toUpper)
  | _ => c.whole [] (digitsOf 10 n)

/-! ### Numbers with a point -/

/-- Digits with a point before the last so many of them. -/
def pointed (alternate : Bool) (places : Nat) (digits : List Char) : List Char :=
  let digits := List.replicate (places + 1 - digits.length) '0' ++ digits
  let front := digits.take (digits.length - places)
  if places = 0 then front ++ (if alternate then ['.'] else [])
  else front ++ '.' :: digits.drop (digits.length - places)

def fixed (alternate : Bool) (places num den : Nat) : List Char :=
  pointed alternate places (digitsOf 10 (Binary.divNearest (num * Decimal.tenTo places) den))

/-- The exponent of the first digit of a quotient that is not zero. -/
def leading (num den : Nat) : Int :=
  let guess : Int := (digitsOf 10 num).length - (digitsOf 10 den).length
  let (n, d) := Decimal.scaled num den guess
  if n < d then guess - 1 else guess

/-- The digits of a quotient, one and so many more, and the exponent of the first. -/
def rounded (places num den : Nat) : Nat × Int :=
  if num = 0 then (0, 0)
  else
    let e := leading num den
    let (n, d) := Decimal.scaled num den (e - places)
    let digits := Binary.divNearest n d
    if digits = Decimal.tenTo (places + 1) then (digits / 10, e + 1) else (digits, e)

def exponentText (letter : Char) (e : Int) : List Char :=
  let digits := digitsOf 10 e.natAbs
  letter :: (if e < 0 then '-' else '+') :: (List.replicate (2 - digits.length) '0' ++ digits)

def scientific (alternate : Bool) (letter : Char) (places num den : Nat) : List Char :=
  let (digits, e) := rounded places num den
  pointed alternate places (digitsOf 10 digits) ++ exponentText letter e

/-- Without the zeros at the end behind a point, and without a point at the end. -/
def dropZeros (chars : List Char) : List Char :=
  if chars.contains '.' then
    let kept := chars.reverse.dropWhile (· == '0')
    (if kept.head? = some '.' then kept.tail else kept).reverse
  else chars

/-- Whichever of the two ways fits a number of digits. -/
def general (alternate : Bool) (letter : Char) (count num den : Nat) : List Char :=
  let count := max count 1
  let (_, e) := rounded (count - 1) num den
  if -4 ≤ e ∧ e < count then
    let body := fixed alternate ((count : Int) - 1 - e).toNat num den
    if alternate then body else dropZeros body
  else
    let (digits, e) := rounded (count - 1) num den
    let body := pointed alternate (count - 1) (digitsOf 10 digits)
    (if alternate then body else dropZeros body) ++ exponentText letter e

/-- A quotient by a power of two, in base sixteen with a power of two behind it: a digit before the
point, and behind it as many as are asked for, or all there are. -/
def hexadecimal (alternate : Bool) (places : Option Nat) (num den : Nat) : List Char :=
  let e : Int := if num = 0 then 0 else max (-1022) ((Nat.log2 num : Int) - Nat.log2 den)
  let bits := num * Binary.twoTo (52 - e).toNat / (den * Binary.twoTo (e - 52).toNat)
  let kept := min (places.getD 13) 13
  let unit := Binary.twoTo (4 * kept)
  let rounded := Binary.divNearest bits (Binary.twoTo (4 * (13 - kept)))
  let back := if kept = 0 then [] else digitsOf 16 (rounded % unit)
  let back := List.replicate (kept - back.length) '0' ++ back
  let back := match places with
    | none => (back.reverse.dropWhile (· == '0')).reverse
    | some n => back ++ List.replicate (n - 13) '0'
  digitsOf 16 (rounded / unit) ++ (if back = [] ∧ !alternate then [] else '.' :: back) ++
    'p' :: (if e < 0 then '-' else '+') :: digitsOf 10 e.natAbs

/-- A number with a point, as a letter of a format says. -/
def real (c : Conversion) (letter : Char) (a : Amount) : List Char :=
  let raised (chars : List Char) := if letter.isUpper then chars.map Char.toUpper else chars
  match a with
  | .undefined => c.fill false (c.signOf false) (raised "nan".toList)
  | .infinite negative => c.fill false (c.signOf negative) (raised "inf".toList)
  | .finite negative num den =>
    let places := c.precision.getD 6
    let exponentLetter := if letter.isUpper then 'E' else 'e'
    let body :=
      match letter.toLower with
      | 'e' => scientific (c.has '#') exponentLetter places num den
      | 'g' => general (c.has '#') exponentLetter places num den
      | 'a' => raised (hexadecimal (c.has '#') c.precision num den)
      | _ => fixed (c.has '#') places num den
    let sign := c.signOf negative ++ (if letter.toLower = 'a' then raised ['0', 'x'] else [])
    c.fill (c.has '0') sign body

end Conversion

namespace Amount

def ofBinary (negative : Bool) : Option Binary → Amount
  | some b => .finite negative b.ratio.1 b.ratio.2
  | none => .infinite negative

/-- The number that digits with a point and an exponent begin with, and what follows it; none if
there are no digits. -/
def decimal? (negative : Bool) (chars : List Char) : Option (Amount × List Char) :=
  let front := chars.takeWhile Char.isDigit
  let rest := chars.drop front.length
  let (back, rest) :=
    match rest with
    | '.' :: more => (more.takeWhile Char.isDigit, more.dropWhile Char.isDigit)
    | rest => ([], rest)
  if front.isEmpty && back.isEmpty then none
  else
    let (e, rest) : Int × List Char :=
      match rest with
      | 'e' :: more | 'E' :: more =>
        let (minus, digits) :=
          match more with
          | '-' :: digits => (true, digits)
          | '+' :: digits => (false, digits)
          | digits => (false, digits)
        if digits.head?.any Char.isDigit then
          let (n, after) := Arithmetic.numeral 10 digits
          (if minus then -(n : Int) else n, after)
        else (0, rest)
      | rest => (0, rest)
    let n := (Arithmetic.numeral 10 (front ++ back)).1
    let e := max (-5000) (min 5000 e) - back.length
    let (num, den) := Decimal.scaled n 1 (-e)
    some (ofBinary negative (Binary.round num den), rest)

/-- The number that a text begins with, and what follows it. -/
def read? (text : List Char) : Option (Amount × List Char) :=
  let trimmed := text.dropWhile Arithmetic.isBlank
  let (negative, body) :=
    match trimmed with
    | '-' :: rest => (true, rest)
    | '+' :: rest => (false, rest)
    | rest => (false, rest)
  let lower (n : Nat) := String.ofList ((body.take n).map Char.toLower)
  if lower 8 = "infinity" then some (.infinite negative, body.drop 8)
  else if lower 3 = "inf" then some (.infinite negative, body.drop 3)
  else if lower 3 = "nan" then some (.undefined, body.drop 3)
  else
    match body with
    | '0' :: x :: c :: rest =>
      if (x = 'x' ∨ x = 'X') ∧ (Arithmetic.digit? 16 c).isSome then
        let (n, rest) := Arithmetic.numeral 16 (c :: rest)
        some (ofBinary negative (Binary.round n 1), rest)
      else decimal? negative body
    | _ => decimal? negative body

end Amount
end ScriptBundle.Shell
