import ScriptBundle.Decimal.Binary

/-!
# The fewest digits that read back

Every double precision number is surrounded by an interval of reals that round to it; its ends
belong to it exactly if the significand is even. For one digit, two digits and so on the two
decimals of that many digits next to the number are tried. The first that lies in the interval wins,
of two the nearer, and of two as near the even one.
-/

namespace ScriptBundle.Decimal

/-- The number `digits * 10 ^ exponent`. -/
structure Digits where
  digits : Nat
  exponent : Int
  deriving DecidableEq, Repr

def tenTo (n : Nat) : Nat := Nat.pow 10 n

/-- The quotient divided by a power of ten, as a new numerator and denominator. -/
def scaled (num den : Nat) (k : Int) : Nat × Nat :=
  if 0 ≤ k then (num, den * tenTo k.toNat) else (num * tenTo (-k).toNat, den)

/-- The interval of reals that round to the number, as numerators over one denominator, and whether
its ends belong to it. -/
structure Interval where
  low : Nat
  value : Nat
  high : Nat
  den : Nat
  closed : Bool

/-- Below a power of two the numbers lie twice as close. -/
def interval (b : Binary) : Interval :=
  let m := b.significand
  let closest := m = Binary.twoTo (Binary.precision - 1) ∧ Binary.leastExponent < b.exponent
  let low := if closest then 4 * m - 1 else 4 * m - 2
  let up := if 0 ≤ b.exponent then Binary.twoTo b.exponent.toNat else 1
  let den := if 0 ≤ b.exponent then 4 else 4 * Binary.twoTo (-b.exponent).toNat
  ⟨low * up, 4 * m * up, (4 * m + 2) * up, den, m % 2 == 0⟩

/-- Whether `d * 10 ^ k` lies in the interval. -/
def Interval.holds (i : Interval) (d : Nat) (k : Int) : Bool :=
  let (low, den) := scaled i.low i.den k
  let high := (scaled i.high i.den k).1
  if i.closed then low ≤ d * den && d * den ≤ high else low < d * den && d * den < high

/-- The winner among the two neighbours at the power of ten `k`. -/
def tryAt (i : Interval) (k : Int) : Option Digits :=
  let (num, den) := scaled i.value i.den k
  let d := num / den
  let below := i.holds d k && d ≠ 0
  let above := i.holds (d + 1) k
  if below && above then
    let r := num % den
    if 2 * r < den || (2 * r == den && d % 2 == 0) then some ⟨d, k⟩ else some ⟨d + 1, k⟩
  else if below then some ⟨d, k⟩
  else if above then some ⟨d + 1, k⟩
  else none

/-- The number of decimal digits before the point; zero or less for a value below one. -/
def magnitude (i : Interval) : Int :=
  let estimate : Int := ((i.value.log2 : Int) - i.den.log2) * 30103 / 100000 - 2
  let steps := (List.range 6).filter fun (n : Nat) =>
    let (num, den) := scaled i.value i.den (estimate + (n : Nat))
    den ≤ num
  estimate + steps.length

/-- Takes trailing zeros into the exponent. -/
def trim : Nat → Digits → Digits
  | 0, d => d
  | fuel + 1, d =>
    if d.digits ≠ 0 ∧ d.digits % 10 = 0 then trim fuel ⟨d.digits / 10, d.exponent + 1⟩ else d

/-- The shortest decimal that reads back as the number. -/
def shortest (b : Binary) : Digits :=
  if b.significand = 0 then ⟨0, 0⟩
  else
    let i := interval b
    let size := magnitude i
    match (List.range 17).findSome? fun (n : Nat) => tryAt i (size - 1 - (n : Nat)) with
    | some d => trim 20 d
    | none => ⟨0, 0⟩

/-- The decimal as text: with a point while its leading digit stands between the fifth place behind
the point and the sixteenth before it, else with an exponent that carries its sign. -/
def render (d : Digits) : String :=
  let text := toString d.digits
  let size : Int := text.length
  let point := size + d.exponent
  if d.digits = 0 then "0.0"
  else if 0 ≤ d.exponent ∧ point ≤ 16 then
    text ++ String.ofList (List.replicate d.exponent.toNat '0') ++ ".0"
  else if 0 < point ∧ point ≤ 16 then
    String.ofList (text.toList.take point.toNat) ++ "." ++
      String.ofList (text.toList.drop point.toNat)
  else if -5 < point ∧ point ≤ 0 then
    "0." ++ String.ofList (List.replicate (-point).toNat '0') ++ text
  else
    let e := point - 1
    let exponent := (if e < 0 then "e-" else "e+") ++ toString e.natAbs
    match text.toList with
    | [c] => String.ofList [c] ++ exponent
    | c :: rest => String.ofList (c :: '.' :: rest) ++ exponent
    | [] => exponent

/-- A number with its sign, which zero has too. -/
def renderSigned (negative : Bool) (b : Binary) : String :=
  (if negative then "-" else "") ++ render (shortest b)

end ScriptBundle.Decimal
