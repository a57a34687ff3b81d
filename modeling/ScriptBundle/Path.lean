/-!
# Paths

A path keeps its spelling. Its parts are what counts when paths are compared: repeated slashes, a
trailing slash, and a dot other than a leading one add no part. Paths are ordered part by part, the
root first, then a leading dot, then a step up, then names by their code points.
-/

namespace ScriptBundle

structure Path where
  spelling : String
  deriving DecidableEq, Repr

namespace Path

inductive Part where
  | root
  /-- A leading dot. -/
  | here
  /-- Two dots. -/
  | up
  | name (text : String)
  deriving DecidableEq, Repr

namespace Part

def rank : Part → Nat
  | .root => 0
  | .here => 1
  | .up => 2
  | .name _ => 3

def compare : Part → Part → Ordering
  | .name a, .name b => compareOfLessAndEq a b
  | a, b => Ord.compare a.rank b.rank

end Part

/-- A part and the number of characters of the spelling up to its end. -/
structure Placed where
  part : Part
  stop : Nat
  deriving DecidableEq, Repr

/-- The parts that a list of segments makes, the first segment starting at `start`. A dot counts
only where `leading` says that it is the first segment of a relative path. -/
def placeSegments (leading : Bool) (start : Nat) : List (List Char) → List Placed
  | [] => []
  | segment :: rest =>
    let stop := start + segment.length
    let rest := placeSegments false (stop + 1) rest
    if segment = [] then rest
    else if segment = ['.'] then if leading then ⟨.here, stop⟩ :: rest else rest
    else if segment = ['.', '.'] then ⟨.up, stop⟩ :: rest
    else ⟨.name (String.ofList segment), stop⟩ :: rest

/-- Whether the path starts at the root. -/
def isAbsolute (p : Path) : Bool := p.spelling.toList.head? == some '/'

/-- What stands between the slashes. -/
def segments (p : Path) : List (List Char) := p.spelling.toList.splitOn '/'

def placed (p : Path) : List Placed :=
  if p.isAbsolute then ⟨.root, 1⟩ :: placeSegments false 0 p.segments
  else placeSegments true 0 p.segments

def parts (p : Path) : List Part := p.placed.map (·.part)

/-- Whether two paths have the same parts. -/
def same (p q : Path) : Bool := p.parts == q.parts

def compare (p q : Path) : Ordering := List.compareLex Part.compare p.parts q.parts

def le (p q : Path) : Bool := p.compare q ≠ .gt

/-- The path up to the end of its last part but one. The root and the empty path have no parent. -/
def parent? (p : Path) : Option Path :=
  match p.placed.reverse with
  | [] => none
  | last :: before =>
    if last.part = .root then none
    else
      let stop := match before with
        | [] => 0
        | b :: _ => b.stop
      some ⟨String.ofList (p.spelling.toList.take stop)⟩

/-- The path of a name inside the directory `p`. -/
def join (p : Path) (name : String) : Path :=
  if p.spelling = "" then ⟨name⟩
  else if p.spelling.toList.getLast? = some '/' then ⟨p.spelling ++ name⟩
  else ⟨p.spelling ++ "/" ++ name⟩

instance : ToString Path := ⟨spelling⟩

end Path
end ScriptBundle
