/-!
# Regular expressions

An expression stands for pieces of a text. Besides what a piece holds, an expression may ask where it
lies, number a part of it, and ask for the numbered part once more.
-/

namespace ScriptBundle

/-- A set of characters. -/
inductive CharSet where
  | empty
  /-- The characters from `low` to `high`; none if they are in the wrong order. -/
  | span (low high : Char)
  | union (a b : CharSet)
  | inter (a b : CharSet)
  | complement (a : CharSet)
  /-- The members in either case. -/
  | anyCase (a : CharSet)
  deriving DecidableEq, Repr

namespace CharSet

/-- The same letter in the other case, for the letters of ASCII. -/
def otherCase (c : Char) : Char := if c.isUpper then c.toLower else c.toUpper

def has : CharSet → Char → Bool
  | empty, _ => false
  | span low high, c => low ≤ c && c ≤ high
  | union a b, c => a.has c || b.has c
  | inter a b, c => a.has c && b.has c
  | complement a, c => !a.has c
  | anyCase a, c => a.has c || a.has (otherCase c)

def single (c : Char) : CharSet := span c c

def all : CharSet := complement empty

def unions (sets : List CharSet) : CharSet := sets.foldr union empty

def ofList (cs : List Char) : CharSet := unions (cs.map single)

def diff (a b : CharSet) : CharSet := inter a (complement b)

theorem has_single (c d : Char) : (single c).has d = (c == d) := by
  by_cases h : c = d
  · subst h
    simp [single, has]
  · have : ¬(c ≤ d ∧ d ≤ c) := fun ⟨h₁, h₂⟩ => h (Char.le_antisymm h₁ h₂)
    have hb : (c == d) = false := beq_eq_false_iff_ne.2 h
    rw [hb]
    simpa [single, has] using this

def digits : CharSet := span '0' '9'
def upper : CharSet := span 'A' 'Z'
def lower : CharSet := span 'a' 'z'
def letters : CharSet := union upper lower
def letterDigits : CharSet := union letters digits
def wordChars : CharSet := union letterDigits (single '_')
def blanks : CharSet := ofList [' ', '\t']
def spaces : CharSet := union (span '\t' '\r') (single ' ')

/-- The classes of ASCII that have a name. -/
def named? : String → Option CharSet
  | "alnum" => some letterDigits
  | "alpha" => some letters
  | "ascii" => some (span '\x00' '\x7f')
  | "blank" => some blanks
  | "cntrl" => some (union (span '\x00' '\x1f') (single '\x7f'))
  | "digit" => some digits
  | "graph" => some (span '!' '~')
  | "lower" => some lower
  | "print" => some (span ' ' '~')
  | "punct" => some (diff (span '!' '~') letterDigits)
  | "space" => some spaces
  | "upper" => some upper
  | "word" => some wordChars
  | "xdigit" => some (unions [digits, span 'A' 'F', span 'a' 'f'])
  | _ => none

end CharSet

/-- A demand on a place in a text. -/
inductive Regex.Look where
  | textStart
  | textEnd
  | lineStart
  | lineEnd
  /-- The start and the end of a line that a carriage return may end as well. -/
  | anyLineStart
  | anyLineEnd
  | wordEdge
  | noWordEdge
  | wordStart
  | wordEnd
  /-- What is before, or after, is no part of a word. -/
  | outsideBefore
  | outsideAfter
  deriving DecidableEq, Repr

inductive Regex where
  | empty
  | char (set : CharSet)
  | look (l : Regex.Look)
  | seq (a b : Regex)
  | alt (a b : Regex)
  /-- From `least` to `most` times, or as often as one likes. -/
  | repeated (r : Regex) (least : Nat) (most : Option Nat)
  | group (number : Nat) (r : Regex)
  /-- What a group stands for, once more. -/
  | again (number : Nat) (anyCase : Bool)
  deriving DecidableEq, Repr

namespace Regex

def seqs (rs : List Regex) : Regex :=
  match rs with
  | [] => empty
  | [r] => r
  | r :: rs => seq r (seqs rs)

/-- Whether a part is asked for once more. -/
def hasAgain : Regex → Bool
  | empty | char _ | look _ => false
  | seq a b | alt a b => a.hasAgain || b.hasAgain
  | repeated r .. | group _ r => r.hasAgain
  | again .. => true

/-- The number of groups. -/
def groups : Regex → Nat
  | empty | char _ | look _ | again .. => 0
  | seq a b | alt a b => a.groups + b.groups
  | repeated r .. => r.groups
  | group _ r => r.groups + 1

end Regex
end ScriptBundle
