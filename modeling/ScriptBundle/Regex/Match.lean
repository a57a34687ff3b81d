import ScriptBundle.Regex.Basic

/-!
# Matching

A place is a position in the text with the groups found on the way. An expression leads from a list
of places to all places that it can end at. Such a list goes from the last position to the first and
holds a position once, unless the expression asks for a group again; of two ways to the same position
the one counts whose earlier parts are longer. So the work stays polynomial in the text, and the first
place of a list is the end of the longest match.
-/

namespace ScriptBundle.Regex

/-- The part of the text that a group stands for. -/
structure Extent where
  start : Nat
  stop : Nat
  deriving DecidableEq, Repr

structure Place where
  position : Nat
  groups : List (Nat × Extent) := []
  deriving DecidableEq, Repr

abbrev Text := Array Char

def Text.slice (text : Text) (e : Extent) : List Char := (text.extract e.start e.stop).toList

namespace Place

/-- Sets what a group stands for. -/
def record (p : Place) (number : Nat) (e : Extent) : Place :=
  { p with groups := (number, e) :: p.groups.filter (·.1 != number) }

def opened (number : Nat) (p : Place) : Place := p.record number ⟨p.position, p.position⟩

def closed (number : Nat) (p : Place) : Place :=
  match p.groups.lookup number with
  | some e => p.record number ⟨e.start, p.position⟩
  | none => p

end Place

/-- Puts two lists of places together; at the same position the first list counts. -/
def merge (distinct : Bool) : Nat → List Place → List Place → List Place
  | 0, a, b => a ++ b
  | _, [], b => b
  | _, a, [] => a
  | fuel + 1, p :: a, q :: b =>
    if p.position > q.position then p :: merge distinct fuel a (q :: b)
    else if p.position < q.position then q :: merge distinct fuel (p :: a) b
    else if distinct && !(p :: a).contains q then p :: merge distinct fuel a (q :: b)
    else p :: merge distinct fuel a b

def join (distinct : Bool) (a b : List Place) : List Place :=
  merge distinct (a.length + b.length) a b

def isWordChar (c : Option Char) : Bool := c.any CharSet.wordChars.has

def Look.holds (text : Text) (i : Nat) (l : Look) : Bool :=
  let before : Option Char := if i = 0 then none else text[i - 1]?
  let after : Option Char := text[i]?
  let inWord := isWordChar before
  let toWord := isWordChar after
  match l with
  | .textStart => before.isNone
  | .textEnd => after.isNone
  | .lineStart => before.all (· == '\n')
  | .lineEnd => after.all (· == '\n')
  | .anyLineStart => before.all fun c => c == '\n' || (c == '\r' && after != some '\n')
  | .anyLineEnd => after.all fun c => c == '\r' || (c == '\n' && before != some '\r')
  | .wordEdge => inWord != toWord
  | .noWordEdge => inWord == toWord
  | .wordStart => !inWord && toWord
  | .wordEnd => inWord && !toWord
  | .outsideBefore => !inWord
  | .outsideAfter => !toWord

/-- Goes on `n` times, unless going on changes nothing any more. -/
def iterate (f : List Place → List Place) : Nat → List Place → List Place
  | 0, ps => ps
  | n + 1, ps =>
    let next := f ps
    if next == ps then ps else iterate f n next

/-- Adds what up to `n` further rounds reach. A round that reaches nothing new is the last. -/
def closure (distinct : Bool) (f : List Place → List Place) :
    Nat → List Place → List Place → List Place
  | 0, found, _ => found
  | n + 1, found, frontier =>
    let fresh := (f frontier).filter fun p =>
      if distinct then !found.contains p else !found.any (·.position == p.position)
    if fresh.isEmpty then found
    else closure distinct f n (join distinct found fresh) fresh

/-- The place after a repetition of what a group stands for. -/
def repeatGroup? (text : Text) (number : Nat) (anyCase : Bool) (p : Place) : Option Place :=
  match p.groups.lookup number with
  | none => none
  | some e =>
    let wanted := text.slice e
    let found := text.slice ⟨p.position, p.position + wanted.length⟩
    let fold (cs : List Char) := if anyCase then cs.map Char.toLower else cs
    if fold found == fold wanted then some { p with position := p.position + wanted.length } else none

/-- All places that the expression leads to. -/
def advance (text : Text) (distinct : Bool) : Regex → List Place → List Place
  | empty, ps => ps
  | char set, ps =>
    ps.filterMap fun p =>
      if text[p.position]?.any set.has then some { p with position := p.position + 1 } else none
  | look l, ps => ps.filter fun p => l.holds text p.position
  | seq a b, ps => advance text distinct b (advance text distinct a ps)
  | alt a b, ps => join distinct (advance text distinct a ps) (advance text distinct b ps)
  | repeated r least most, ps =>
    let start := iterate (advance text distinct r) least ps
    let rounds := (most.map (· - least)).getD (text.size + 1)
    closure distinct (advance text distinct r) rounds start start
  | group number r, ps =>
    (advance text distinct r (ps.map (Place.opened number))).map (Place.closed number)
  | again number anyCase, ps =>
    (ps.filterMap (repeatGroup? text number anyCase)).mergeSort fun p q => q.position ≤ p.position

/-- Whether some piece of the text is matched. -/
def occursIn (r : Regex) (text : List Char) : Bool :=
  let text := text.toArray
  let starts := (List.range (text.size + 1)).reverse.map fun i => ({ position := i } : Place)
  !(advance text r.hasAgain r starts).isEmpty

structure Found where
  whole : Extent
  groups : List (Nat × Extent)
  deriving DecidableEq, Repr

/-- The longest match that starts at a position. -/
def matchAt? (r : Regex) (text : Text) (start : Nat) : Option Found :=
  match advance text r.hasAgain r [{ position := start }] with
  | [] => none
  | p :: _ => some ⟨⟨start, p.position⟩, p.groups⟩

/-- The first match at a position or after it, and of those the longest. -/
def find? (r : Regex) (text : Text) (start : Nat) : Option Found :=
  (List.range (text.size + 1 - start)).findSome? fun i => r.matchAt? text (start + i)

end ScriptBundle.Regex
