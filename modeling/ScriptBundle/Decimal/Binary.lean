/-!
# Double precision numbers

A number is a significand times a power of two. `round` takes an exact quotient to the nearest
number of 53 bits, a tie to the even significand; the exponent is at least -1074, and a result above
the greatest finite number is none. All arithmetic is exact until it is rounded.
-/

namespace ScriptBundle

/-- The number `significand * 2 ^ exponent`. -/
structure Binary where
  significand : Nat
  exponent : Int
  deriving DecidableEq, Repr

namespace Binary

def twoTo (n : Nat) : Nat := Nat.pow 2 n

/-- The bits of a significand. -/
def precision : Nat := 53

def leastExponent : Int := -1074

def greatestExponent : Int := 971

/-- The quotient rounded to a whole number, a tie to the even one. -/
def divNearest (num den : Nat) : Nat :=
  let q := num / den
  let r := num % den
  if 2 * r < den then q
  else if den < 2 * r then q + 1
  else if q % 2 = 0 then q else q + 1

/-- The quotient divided by a power of two, as a new numerator and denominator. -/
def scaleDown (num den : Nat) (e : Int) : Nat × Nat :=
  if 0 ≤ e then (num, den * twoTo e.toNat) else (num * twoTo (-e).toNat, den)

/-- The exponent at which the quotient has as many bits before the point as a significand. -/
def exponentOf (num den : Nat) : Int :=
  let guess : Int := num.log2 - den.log2 - (precision - 1)
  let (n, d) := scaleDown num den guess
  let fitted := if n < d * twoTo (precision - 1) then guess - 1 else guess
  max fitted leastExponent

/-- The number nearest to `num / den`. -/
def round (num den : Nat) : Option Binary :=
  if num = 0 then some ⟨0, leastExponent⟩
  else
    let e := exponentOf num den
    let (n, d) := scaleDown num den e
    let m := divNearest n d
    let b : Binary := if m = twoTo precision then ⟨m / 2, e + 1⟩ else ⟨m, e⟩
    if b.exponent ≤ greatestExponent then some b else none

/-- The value as an exact quotient. -/
def ratio (b : Binary) : Nat × Nat :=
  if 0 ≤ b.exponent then (b.significand * twoTo b.exponent.toNat, 1)
  else (b.significand, twoTo (-b.exponent).toNat)

def mul (a b : Binary) : Option Binary :=
  round (a.ratio.1 * b.ratio.1) (a.ratio.2 * b.ratio.2)

def div (a b : Binary) : Option Binary :=
  round (a.ratio.1 * b.ratio.2) (a.ratio.2 * b.ratio.1)

end Binary
end ScriptBundle
