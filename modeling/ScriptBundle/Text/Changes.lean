/-!
# Changes between two texts

Two texts are given as arrays of numbers, one number for all lines that count as equal. A shortest way
from one to the other is found by going from both ends at once, until the ways meet; what lies before
and behind the meeting point is done in the same manner. Where a run of changed lines could stand at
more than one place, it is moved to the last, or to where the other text is changed too.
-/

namespace ScriptBundle.Changes

/-- Which lines of a text are changed. -/
abbrev Marks := Array Bool

def Marks.has (m : Marks) (i : Nat) : Bool := m.getD i false

def mark (m : Marks) (start stop : Nat) : Marks :=
  (List.range (stop - start)).foldl (fun m k => m.setIfInBounds (start + k) true) m

/-! ### The meeting point -/

/-- How far each diagonal was followed, for the diagonals from `low` to `high`. -/
structure Front where
  reached : Array Int
  /-- What is added to the number of a diagonal to get its place. -/
  base : Int
  low : Int
  high : Int

namespace Front

def get (f : Front) (d : Int) : Int := f.reached.getD (f.base + d).toNat 0

def set (f : Front) (d v : Int) : Front :=
  { f with reached := f.reached.setIfInBounds (f.base + d).toNat v }

/-- Takes one more diagonal on each side, or one less if there is none. -/
def widen (f : Front) (least most empty : Int) : Front :=
  let f := if f.low > least then { f.set (f.low - 2) empty with low := f.low - 1 }
    else { f with low := f.low + 1 }
  if f.high < most then { f.set (f.high + 2) empty with high := f.high + 1 }
  else { f with high := f.high - 1 }

end Front

/-- A part of each of two texts. -/
structure Window where
  xStart : Nat
  xStop : Nat
  yStart : Nat
  yStop : Nat

/-- Follows equal lines forward. -/
def slideUp (xs ys : Array Nat) (w : Window) : Nat → Int → Int → Int
  | 0, x, _ => x
  | fuel + 1, x, y =>
    if x < w.xStop && y < w.yStop && xs[x.toNat]? == ys[y.toNat]? then slideUp xs ys w fuel (x + 1) (y + 1)
    else x

/-- Follows equal lines back. -/
def slideDown (xs ys : Array Nat) (w : Window) : Nat → Int → Int → Int
  | 0, x, _ => x
  | fuel + 1, x, y =>
    if w.xStart < x && w.yStart < y && xs[(x - 1).toNat]? == ys[(y - 1).toNat]? then
      slideDown xs ys w fuel (x - 1) (y - 1)
    else x

/-- One step on all diagonals from the front, from the highest down. Ends where the ways meet. -/
def stepUp (xs ys : Array Nat) (w : Window) (isOdd : Bool) (other : Front) :
    Nat → Int → Front → Except (Nat × Nat) Front
  | 0, _, f => .ok f
  | fuel + 1, d, f =>
    if d < f.low then .ok f
    else
      let below := f.get (d - 1)
      let above := f.get (d + 1)
      let x := if below < above then above else below + 1
      let x := slideUp xs ys w (xs.size + 1) x (x - d)
      let f := f.set d x
      if isOdd && other.low ≤ d && d ≤ other.high && other.get d ≤ x then .error (x.toNat, (x - d).toNat)
      else stepUp xs ys w isOdd other fuel (d - 2) f

/-- The same from the end. -/
def stepDown (xs ys : Array Nat) (w : Window) (isOdd : Bool) (other : Front) :
    Nat → Int → Front → Except (Nat × Nat) Front
  | 0, _, f => .ok f
  | fuel + 1, d, f =>
    if d < f.low then .ok f
    else
      let below := f.get (d - 1)
      let above := f.get (d + 1)
      let x := if below < above then below else above - 1
      let x := slideDown xs ys w (xs.size + 1) x (x - d)
      let f := f.set d x
      if !isOdd && other.low ≤ d && d ≤ other.high && x ≤ other.get d then .error (x.toNat, (x - d).toNat)
      else stepDown xs ys w isOdd other fuel (d - 2) f

def approach (xs ys : Array Nat) (w : Window) (isOdd : Bool) (least most empty : Int) :
    Nat → Front → Front → Nat × Nat
  | 0, _, _ => (w.xStop, w.yStart)
  | fuel + 1, up, down =>
    let steps := xs.size + ys.size + 3
    let up := up.widen least most (-1)
    match stepUp xs ys w isOdd down steps up.high up with
    | .error point => point
    | .ok up =>
      let down := down.widen least most empty
      match stepDown xs ys w isOdd up steps down.high down with
      | .error point => point
      | .ok down => approach xs ys w isOdd least most empty fuel up down

/-- A point in the middle of a shortest way through a window. -/
def middle (xs ys : Array Nat) (w : Window) : Nat × Nat :=
  let least : Int := (w.xStart : Int) - w.yStop
  let most : Int := (w.xStop : Int) - w.yStart
  let base : Int := 2 - least
  let empty : Int := xs.size + ys.size + 9
  let cells := (most - least + 5).toNat
  let start : Int := (w.xStart : Int) - w.yStart
  let stop : Int := (w.xStop : Int) - w.yStop
  let up : Front := (Front.mk (Array.replicate cells 0) base start start).set start w.xStart
  let down : Front := (Front.mk (Array.replicate cells 0) base stop stop).set stop w.xStop
  approach xs ys w ((start - stop) % 2 != 0) least most empty (xs.size + ys.size + 3) up down

/-- Without the equal lines at both ends. -/
def trim (xs ys : Array Nat) (w : Window) : Window :=
  let x := (slideUp xs ys w (xs.size + 1) w.xStart w.yStart).toNat
  let w := { w with xStart := x, yStart := w.yStart + (x - w.xStart) }
  let x := (slideDown xs ys w (xs.size + 1) w.xStop w.yStop).toNat
  { w with xStop := x, yStop := w.yStop - (w.xStop - x) }

/-- Marks what a shortest way through a window leaves out of each text. -/
def compare (xs ys : Array Nat) : Nat → Window → Marks × Marks → Marks × Marks
  | 0, _, marks => marks
  | fuel + 1, w, (mx, my) =>
    let w := trim xs ys w
    if w.xStart = w.xStop then (mx, mark my w.yStart w.yStop)
    else if w.yStart = w.yStop then (mark mx w.xStart w.xStop, my)
    else
      let (x, y) := middle xs ys w
      let marks := compare xs ys fuel { w with xStop := x, yStop := y } (mx, my)
      compare xs ys fuel { w with xStart := x, yStart := y } marks

/-- The lines left out by a shortest way. Lines that the other text does not have are left out from the
start. -/
def between (xs ys : Array Nat) : Marks × Marks :=
  let kept (a b : Array Nat) : List (Nat × Nat) := a.toList.zipIdx.filter fun (n, _) => b.contains n
  let xKept := kept xs ys
  let yKept := kept ys xs
  let xs2 := (xKept.map (·.1)).toArray
  let ys2 := (yKept.map (·.1)).toArray
  let blank (a : Array Nat) : Marks := Array.replicate a.size false
  let (mx, my) := compare xs2 ys2 (xs2.size + ys2.size + 2) ⟨0, xs2.size, 0, ys2.size⟩ (blank xs2, blank ys2)
  let spread (a : Array Nat) (kept : List (Nat × Nat)) (marks : Marks) : Marks :=
    kept.zipIdx.foldl (fun (m : Marks) ((_, place), i) => m.setIfInBounds place (marks.has i))
      (Array.replicate a.size true)
  (spread xs xKept mx, spread ys yKept my)

/-! ### Moving runs -/

/-- A run of changed lines, and the place in the other text that belongs to its end. -/
structure Run where
  marks : Marks
  start : Nat
  stop : Nat
  partner : Nat

/-- The first place from here on that is not marked. -/
def firstClear (m : Marks) : Nat → Nat → Nat
  | 0, i => i
  | fuel + 1, i => if m.has i then firstClear m fuel (i + 1) else i

/-- The last place before this one that is not marked. -/
def lastClear (m : Marks) : Nat → Nat
  | 0 => 0
  | i + 1 => if m.has i then lastClear m i else i

/-- The start of the marked lines that end here. -/
def startOf (m : Marks) : Nat → Nat
  | 0 => 0
  | i + 1 => if m.has i then startOf m i else i + 1

def Run.back (r : Run) (other : Marks) : Run :=
  let marks := (r.marks.setIfInBounds (r.start - 1) true).setIfInBounds (r.stop - 1) false
  { marks, start := startOf marks (r.start - 1), stop := r.stop - 1, partner := lastClear other r.partner }

/-- Moves a run back as long as the line before it equals its last. -/
def moveBack (xs : Array Nat) (other : Marks) : Nat → Run → Run
  | 0, r => r
  | fuel + 1, r =>
    if r.start > 0 && xs[r.start - 1]? == xs[r.stop - 1]? then moveBack xs other fuel (r.back other) else r

/-- Moves a run on as long as its first line equals the one behind it, and finds the last place at
which the other text is changed too. -/
def moveOn (xs : Array Nat) (other : Marks) : Nat → Run → Nat → Run × Nat
  | 0, r, met => (r, met)
  | fuel + 1, r, met =>
    if r.stop < xs.size && xs[r.start]? == xs[r.stop]? then
      let marks := (r.marks.setIfInBounds r.start false).setIfInBounds r.stop true
      let stop := firstClear marks (xs.size + 1) (r.stop + 1)
      let partner := firstClear other (other.size + 1) (r.partner + 1)
      let met := if partner > r.partner + 1 then stop else met
      moveOn xs other fuel ⟨marks, r.start + 1, stop, partner⟩ met
    else (r, met)

/-- Moves a run both ways until it does not grow any more. -/
def settle (xs : Array Nat) (other : Marks) : Nat → Run → Run × Nat
  | 0, r => (r, xs.size)
  | fuel + 1, r =>
    let length := r.stop - r.start
    let r := moveBack xs other (xs.size + 1) r
    let met := if r.partner > 0 && other.has (r.partner - 1) then r.stop else xs.size
    let (r, met) := moveOn xs other (xs.size + 1) r met
    if r.stop - r.start = length then (r, met) else settle xs other fuel r

/-- Moves a run back to a place. -/
def backTo (other : Marks) (place : Nat) : Nat → Run → Run
  | 0, r => r
  | fuel + 1, r =>
    if place < r.stop then
      let marks := (r.marks.setIfInBounds (r.start - 1) true).setIfInBounds (r.stop - 1) false
      backTo other place fuel ⟨marks, r.start - 1, r.stop - 1, lastClear other r.partner⟩
    else r

/-- Passes unchanged lines. -/
def passOver (marks other : Marks) : Nat → Nat → Nat → Nat × Nat
  | 0, i, j => (i, j)
  | fuel + 1, i, j =>
    if i < marks.size && !marks.has i then passOver marks other fuel (i + 1) (firstClear other (other.size + 1) j + 1)
    else (i, j)

def moveRuns (xs : Array Nat) (other : Marks) : Nat → Nat → Nat → Marks → Marks
  | 0, _, _, marks => marks
  | fuel + 1, i, j, marks =>
    let (start, j) := passOver marks other (xs.size + 1) i j
    if start ≥ xs.size then marks
    else
      let stop := firstClear marks (xs.size + 1) start
      let partner := firstClear other (other.size + 1) j
      let (r, met) := settle xs other (xs.size + 1) ⟨marks, start, stop, partner⟩
      let r := backTo other met (xs.size + 1) r
      moveRuns xs other fuel r.stop r.partner r.marks

/-! ### The list of changes -/

/-- Some lines of one text in the place of some of another. -/
structure Change where
  xStart : Nat
  xStop : Nat
  yStart : Nat
  yStop : Nat
  deriving DecidableEq, Repr

def collect (mx my : Marks) : Nat → Nat → Nat → List Change
  | 0, _, _ => []
  | fuel + 1, i, j =>
    if i ≥ mx.size && j ≥ my.size then []
    else if mx.has i || my.has j then
      let iStop := firstClear mx (mx.size + 1) i
      let jStop := firstClear my (my.size + 1) j
      ⟨i, iStop, j, jStop⟩ :: collect mx my fuel iStop jStop
    else collect mx my fuel (i + 1) (j + 1)

/-- The length of the start that two lists have in common. -/
def commonStart [BEq α] : List α → List α → Nat
  | x :: xs, y :: ys => if x == y then commonStart xs ys + 1 else 0
  | _, _ => 0

/-- How many lines at the start and at the end of two texts are the same, but for so many of them that
are looked at. -/
def commonEnds [BEq α] (around : Nat) (xs ys : List α) : Nat × Nat :=
  let front := commonStart xs ys - around
  let back := min (commonStart xs.reverse ys.reverse) (min xs.length ys.length - front) - around
  (front, back)

/-- The changes from one text to another, of which the given ends are not looked at. -/
def list (ends : Nat × Nat) (xs ys : Array Nat) : List Change :=
  let (front, back) := ends
  let inner (a : Array Nat) : Array Nat := a.extract front (a.size - back)
  let (xs, ys) := (inner xs, inner ys)
  let (mx, my) := between xs ys
  let mx := moveRuns xs my (xs.size + 1) 0 0 mx
  let my := moveRuns ys mx (ys.size + 1) 0 0 my
  (collect mx my (xs.size + ys.size + 1) 0 0).map fun c =>
    ⟨c.xStart + front, c.xStop + front, c.yStart + front, c.yStop + front⟩

end ScriptBundle.Changes
