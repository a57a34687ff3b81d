import ScriptBundle.Decimal.Elementary
import ScriptBundle.Shell.Conversion

/-!
# Numbers of double precision

The numbers that `awk` reckons with. A finite one is held as an exact quotient; after every operation
the result is rounded to the nearest number of double precision.
-/

namespace ScriptBundle.Shell.Tool.Awk

inductive Num where
  | finite (negative : Bool) (num den : Nat)
  | infinite (negative : Bool)
  | undefined (negative : Bool)
  deriving DecidableEq, Repr

namespace Num

def zero : Num := finite false 0 1

def ofNat (n : Nat) : Num := finite false n 1

/-- The number nearest to a quotient. -/
def round (negative : Bool) (num den : Nat) : Num :=
  if den = 1 && num < 9007199254740992 then finite negative num 1
  else
    match Binary.round num den with
    | some b =>
      let (n, d) := b.ratio
      if n % d = 0 then finite negative (n / d) 1 else finite negative n d
    | none => infinite negative

def ofInt (n : Int) : Num := round (n < 0) n.natAbs 1

def ofBool (b : Bool) : Num := ofNat (if b then 1 else 0)

def ofAmount : Amount → Num
  | .finite negative n d => if n % d = 0 then finite negative (n / d) 1 else finite negative n d
  | .infinite negative => infinite negative
  | .undefined => undefined false

def isNegative : Num → Bool
  | finite negative .. => negative
  | infinite negative => negative
  | undefined negative => negative

def isZero : Num → Bool
  | finite _ n _ => n = 0
  | _ => false

def neg : Num → Num
  | finite negative n d => finite (!negative) n d
  | infinite negative => infinite (!negative)
  | undefined negative => undefined (!negative)

/-- What an operation gives that has no result. -/
def nothing : Num := undefined true

def signed (negative : Bool) (n : Nat) : Int := if negative then -(n : Int) else n

def add : Num → Num → Num
  | finite s n d, finite t k e =>
    let sum := signed s (n * e) + signed t (k * d)
    if sum = 0 then finite (s && t) 0 1 else round (sum < 0) sum.natAbs (d * e)
  | undefined s, _ => undefined s
  | _, undefined t => undefined t
  | infinite s, infinite t => if s = t then infinite s else nothing
  | infinite s, _ => infinite s
  | _, infinite t => infinite t

def sub (a b : Num) : Num := add a b.neg

def mul : Num → Num → Num
  | finite s n d, finite t k e => round (s != t) (n * k) (d * e)
  | undefined s, _ => undefined s
  | _, undefined t => undefined t
  | infinite s, b => if b.isZero then nothing else infinite (s != b.isNegative)
  | a, infinite t => if a.isZero then nothing else infinite (a.isNegative != t)

def div : Num → Num → Num
  | finite s n d, finite t k e =>
    if k = 0 then (if n = 0 then nothing else infinite (s != t)) else round (s != t) (n * e) (d * k)
  | undefined s, _ => undefined s
  | _, undefined t => undefined t
  | infinite _, infinite _ => nothing
  | infinite s, b => infinite (s != b.isNegative)
  | a, infinite t => finite (a.isNegative != t) 0 1

/-- What is left of a division; it has the sign of the first number. -/
def mod : Num → Num → Num
  | finite s n d, finite _ k e =>
    if k = 0 then nothing else round s (n * e % (k * d)) (d * e)
  | undefined s, _ => undefined s
  | _, undefined t => undefined t
  | infinite _, _ => nothing
  | a, infinite _ => a

/-- Without what is behind the point. -/
def truncate : Num → Num
  | finite s n d => finite s (n / d) 1
  | a => a

/-- The whole part, if it can be told. -/
def toInt? : Num → Option Int
  | finite s n d => some (signed s (n / d))
  | _ => none

def isWhole : Num → Bool
  | finite _ n d => n % d = 0
  | _ => false

def less : Num → Num → Bool
  | finite s n d, finite t k e => signed s (n * e) < signed t (k * d)
  | undefined _, _ => false
  | _, undefined _ => false
  | infinite s, infinite t => s && !t
  | infinite s, _ => s
  | _, infinite t => !t

def same : Num → Num → Bool
  | finite s n d, finite t k e => signed s (n * e) = signed t (k * d)
  | infinite s, infinite t => s = t
  | _, _ => false

def amount : Num → Amount
  | finite s n d => .finite s n d
  | infinite s => .infinite s
  | undefined _ => .undefined

/-! ### Elementary functions -/

/-- A value in units of the elementary functions, times a power of two. -/
def ofUnits (x e : Int) : Num :=
  let (n, d) := Binary.scaleDown x.natAbs (Binary.twoTo Elementary.places) (-e)
  round (x < 0) n d

def units : Num → Int
  | finite s n d => Elementary.ofRatio (signed s n) d
  | _ => 0

def exp : Num → Num
  | undefined s => undefined s
  | infinite s => if s then zero else infinite false
  | a =>
    let x := a.units
    if x > 800 * Elementary.unit then infinite false
    else if x < -800 * Elementary.unit then zero
    else
      let (y, e) := Elementary.exp x
      ofUnits y e

def log : Num → Num
  | undefined s => undefined s
  | finite s n d =>
    if n = 0 then infinite true else if s then nothing else ofUnits (Elementary.log n d) 0
  | infinite s => if s then nothing else infinite false

def sqrt : Num → Num
  | undefined s => undefined s
  | finite s n d =>
    if n = 0 then finite s 0 1
    else if s then nothing
    else round false (Elementary.root (n * d * Binary.twoTo 240)) (d * Binary.twoTo 120)
  | infinite s => if s then nothing else infinite false

def sin : Num → Num
  | finite s n d => if n = 0 then finite s 0 1 else ofUnits (Elementary.sin (finite s n d).units) 0
  | _ => nothing

def cos : Num → Num
  | finite s n d => ofUnits (Elementary.cos (finite s n d).units) 0
  | _ => nothing

def angle (y x : Num) : Num := ofUnits (Elementary.angle y.units x.units) 0

/-- A power. A whole exponent that is not too large gives an exact result, which is rounded once. -/
def pow (a b : Num) : Num :=
  match a, b with
  | finite s n d, finite t k e =>
    if k = 0 then ofNat 1
    else if n = 0 then (if t then infinite false else zero)
    else if k % e = 0 && k / e ≤ 4096 then
      let power := k / e
      let negative := s && power % 2 = 1
      let (up, down) := (Nat.pow n power, Nat.pow d power)
      if t then round negative down up else round negative up down
    else if s && k % e != 0 then nothing
    else
      let x := Elementary.mul (Elementary.log n d) (finite t k e).units
      if x > 800 * Elementary.unit then infinite false
      else if x < -800 * Elementary.unit then zero
      else
        let (y, p) := Elementary.exp x
        ofUnits y p
  | undefined s, _ => undefined s
  | _, undefined t => undefined t
  | infinite s, b => if b.isNegative then zero else if b.isZero then ofNat 1 else infinite s
  | a, infinite t =>
    if same a (ofNat 1) then ofNat 1
    else if less (ofNat 1) a = t then zero else infinite false

/-! ### Texts -/

/-- The number as a conversion with a point writes it. -/
def shown (c : Conversion) (letter : Char) (a : Num) : List Char :=
  match a with
  | undefined true => c.fill false [] (if letter.isUpper then "-NAN".toList else "-nan".toList)
  | a => c.real letter a.amount

/-- The number that a text begins with, or zero. -/
def ofText (text : List Char) : Num :=
  match Amount.read? text with
  | some (a, _) => ofAmount a
  | none => zero

/-- The number that a text is, but for blanks around it. -/
def whole? (text : List Char) : Option Num :=
  let text := text.dropWhile Arithmetic.isBlank
  if text.head?.any fun c => c.isDigit || c == '.' || c == '+' || c == '-' then
    match Amount.read? text with
    | some (a, rest) => if rest.all Arithmetic.isBlank then some (ofAmount a) else none
    | none => none
  else none

end Num
end ScriptBundle.Shell.Tool.Awk
