import ScriptBundle.Decimal.Binary

/-!
# Elementary functions

Exponentials, logarithms, roots and the functions of angles, to many more places than a number of
double precision has. A value is a whole number of units, of which one makes `unit`.
-/

namespace ScriptBundle.Elementary

/-- The bits behind the point. -/
def places : Nat := 200

def unit : Int := Binary.twoTo places

/-- A quotient in units. -/
def ofRatio (n : Int) (d : Nat) : Int := n * unit / d

def mul (a b : Int) : Int := a * b / unit

def div (a b : Int) : Int := a * unit / b

/-- The sum of terms, each made from the one before it and its number. -/
def series (next : Nat → Int → Int) (weight : Nat → Int → Int) : Nat → Nat → Int → Int → Int
  | 0, _, _, sum => sum
  | fuel + 1, i, term, sum => series next weight fuel (i + 1) (next i term) (sum + weight i term)

/-- The inverse of the hyperbolic tangent, of a value well below one. -/
def artanh (z : Int) : Int :=
  let square := mul z z
  series (fun _ t => mul t square) (fun i t => t / (2 * i + 1)) 80 0 z 0

/-- The inverse of the tangent, of a value well below one. -/
def arctanSmall (z : Int) : Int :=
  let square := mul z z
  series (fun _ t => -(mul t square)) (fun i t => t / (2 * i + 1)) 80 0 z 0

def logTwo : Int := 2 * artanh (unit / 3)

def pi : Int := 16 * arctanSmall (unit / 5) - 4 * arctanSmall (unit / 239)

/-- The root of a whole number, rounded down. -/
def rootFrom (n : Nat) : Nat → Nat → Nat
  | 0, guess => guess
  | fuel + 1, guess =>
    let next := (guess + n / guess) / 2
    if next < guess then rootFrom n fuel next else guess

def root (n : Nat) : Nat := if n = 0 then 0 else rootFrom n (n.log2 + 8) (Binary.twoTo (n.log2 / 2 + 1))

/-- The logarithm of a quotient above zero. -/
def log (num den : Nat) : Int :=
  let e : Int := (num.log2 : Int) - den.log2
  let (n, d) := Binary.scaleDown num den e
  let m := ofRatio n d
  e * logTwo + 2 * artanh (div (m - unit) (m + unit))

/-- The exponential: a value from a half to two in units, and the power of two by which it is taken. -/
def exp (x : Int) : Int × Int :=
  let k := x / logTwo
  let r := x - k * logTwo
  (series (fun i t => mul t r / (i + 1)) (fun _ t => t) 80 0 unit 0, k)

/-- An angle without whole turns. -/
def reduced (x : Int) : Int := x % (2 * pi)

def sin (x : Int) : Int :=
  let r := reduced x
  let square := mul r r
  series (fun i t => -(mul t square) / ((2 * i + 2) * (2 * i + 3))) (fun _ t => t) 100 0 r 0

def cos (x : Int) : Int :=
  let r := reduced x
  let square := mul r r
  series (fun i t => -(mul t square) / ((2 * i + 1) * (2 * i + 2))) (fun _ t => t) 100 0 unit 0

/-- The tangent of half the angle. -/
def halfTangent (t : Int) : Int :=
  let length := (root ((unit * unit + t * t).toNat) : Int)
  div t (unit + length)

/-- The inverse of the tangent of a value from zero to one. -/
def arctan (t : Int) : Int := 4 * arctanSmall (halfTangent (halfTangent t))

/-- The angle of a point. -/
def angle (y x : Int) : Int :=
  let (a, b) := ((y.natAbs : Int), (x.natAbs : Int))
  let first := if a ≤ b then (if b = 0 then 0 else arctan (div a b)) else pi / 2 - arctan (div b a)
  let turned := if x < 0 then pi - first else first
  if y < 0 then -turned else turned

end ScriptBundle.Elementary
