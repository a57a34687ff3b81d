import ScriptBundle.Regex.Basic

/-!
# Ranges of characters

A set of characters as ranges of their numbers. The ranges stand in order, and between one and the
next lies a number that is in neither, so each set has one list of ranges.
-/

namespace ScriptBundle.Regex

structure Ranges where
  spans : List (Nat × Nat)
  deriving DecidableEq, Repr

namespace Ranges

def empty : Ranges := ⟨[]⟩

def isEmpty (r : Ranges) : Bool := r.spans.isEmpty

/-- The greatest number of a character. -/
def last : Nat := 0x10ffff

def all : Ranges := ⟨[(0, last)]⟩

/-- The number after another; the surrogates are no characters. -/
def after (n : Nat) : Nat := if n = 0xd7ff then 0xe000 else n + 1

def before (n : Nat) : Nat := if n = 0xe000 then 0xd7ff else n - 1

/-- Joins a range with the ranges after it that it meets, in order of their starts. -/
def join : Nat × Nat → List (Nat × Nat) → List (Nat × Nat)
  | r, [] => [r]
  | (a, b), (c, d) :: rest =>
    if c ≤ b + 1 then join (a, max b d) rest else (a, b) :: join (c, d) rest

/-- The set of the numbers in some ranges. -/
def ofSpans (spans : List (Nat × Nat)) : Ranges :=
  match spans.mergeSort fun p q => p.1 ≤ q.1 with
  | [] => empty
  | r :: rest => ⟨join r rest⟩

def span (low high : Char) : Ranges := ⟨[(low.toNat, high.toNat)]⟩

def single (c : Char) : Ranges := span c c

/-- The characters of ASCII that pass a test. -/
def ascii (test : Char → Bool) : Ranges :=
  ofSpans (((List.range 128).filter fun n => test (Char.ofNat n)).map fun n => (n, n))

def union (a b : Ranges) : Ranges := ofSpans (a.spans ++ b.spans)

/-- The gaps that ranges leave from a number on. -/
def gaps (low : Nat) : List (Nat × Nat) → List (Nat × Nat)
  | [] => if low ≤ last then [(low, last)] else []
  | (a, b) :: rest => if low < a then (low, before a) :: gaps (after b) rest else gaps (after b) rest

def complement (r : Ranges) : Ranges := ⟨gaps 0 r.spans⟩

/-- What two lists of ranges in order have in common. -/
def common : List (Nat × Nat) → List (Nat × Nat) → List (Nat × Nat)
  | [], _ | _, [] => []
  | (a, b) :: p, (c, d) :: q =>
    let low := max a c
    let high := min b d
    let rest := if b < d then common p ((c, d) :: q) else common ((a, b) :: p) q
    if low ≤ high then (low, high) :: rest else rest
  termination_by p q => p.length + q.length

def inter (a b : Ranges) : Ranges := ⟨common a.spans b.spans⟩

def diff (a b : Ranges) : Ranges := inter a b.complement

/-- Adds the letters of ASCII in the other case. -/
def anyCase (r : Ranges) : Ranges :=
  let upper := (inter r (span 'A' 'Z')).spans.map fun (a, b) => (a + 32, b + 32)
  let lower := (inter r (span 'a' 'z')).spans.map fun (a, b) => (a - 32, b - 32)
  ofSpans (r.spans ++ upper ++ lower)

def isAscii (r : Ranges) : Bool := r.spans.all fun (_, b) => b < 128

/-- The only member, if there is only one. -/
def only? (r : Ranges) : Option Char :=
  match r.spans with
  | [(a, b)] => if a = b then some (Char.ofNat a) else none
  | _ => none

def toSet (r : Ranges) : CharSet :=
  CharSet.unions (r.spans.map fun (a, b) => .span (Char.ofNat a) (Char.ofNat b))

end Ranges
end ScriptBundle.Regex
