import ScriptBundle.Regex.Ranges

/-!
# Simplified expressions

An expression in the form that a machine is built from. The constructors simplify as they go: text
that stands side by side is one text, what matches nothing visible is left out of a sequence or asked
for once only, alternatives that are single characters are one set, and a start that all alternatives
share stands before them.
-/

namespace ScriptBundle.Regex

inductive Form where
  | empty
  /-- Some characters, one after the other. -/
  | text (chars : List Char)
  /-- A character of a set; `isWide` says whether it stands for characters or for bytes. -/
  | set (ranges : Ranges) (isWide : Bool)
  /-- A demand on a place; `isWide` says whether it is for words of letters beyond ASCII. -/
  | look (l : Look) (isWide : Bool)
  | repeated (f : Form) (least : Nat) (most : Option Nat) (isLazy : Bool)
  | group (number : Nat) (f : Form)
  | seq (fs : List Form)
  | alt (fs : List Form)
  deriving Repr

namespace Form

mutual

def same : Form → Form → Bool
  | empty, empty => true
  | text a, text b => a == b
  | set a u, set b v => a == b && u == v
  | look l u, look k v => l == k && u == v
  | repeated f a b u, repeated g c d v => a == c && b == d && u == v && same f g
  | group m f, group n g => m == n && same f g
  | seq fs, seq gs => sameAll fs gs
  | alt fs, alt gs => sameAll fs gs
  | _, _ => false

def sameAll : List Form → List Form → Bool
  | [], [] => true
  | f :: fs, g :: gs => same f g && sameAll fs gs
  | _, _ => false

end

/-- How many bytes a character takes. -/
def byteCount (n : Nat) : Nat :=
  if n < 0x80 then 1 else if n < 0x800 then 2 else if n < 0x10000 then 3 else 4

def textSize (chars : List Char) : Nat := chars.foldl (fun n c => n + byteCount c.toNat) 0

/-- The least of some lengths; none if there is none for one of them. -/
def leastOf : List (Option Nat) → Option Nat
  | [] => none
  | [n] => n
  | n :: rest => do return min (← n) (← leastOf rest)

def greatestOf : List (Option Nat) → Option Nat
  | [] => none
  | [n] => n
  | n :: rest => do return max (← n) (← greatestOf rest)

def totalOf : List (Option Nat) → Option Nat
  | [] => some 0
  | n :: rest => do return (← n) + (← totalOf rest)

mutual

/-- The length in bytes of the shortest match; none if there is no match. -/
def minLength : Form → Option Nat
  | empty | look .. => some 0
  | text cs => some (textSize cs)
  | set r _ => r.spans.head?.map fun (a, _) => byteCount a
  | repeated f least _ _ => (minLength f).map (· * least)
  | group _ f => minLength f
  | seq fs => totalOf (minLengths fs)
  | alt fs => leastOf (minLengths fs)

def minLengths : List Form → List (Option Nat)
  | [] => []
  | f :: fs => minLength f :: minLengths fs

end

mutual

/-- The length in bytes of the longest match; none if there is no match or no longest one. -/
def maxLength : Form → Option Nat
  | empty | look .. => some 0
  | text cs => some (textSize cs)
  | set r _ => r.spans.getLast?.map fun (_, b) => byteCount b
  | repeated f _ most _ => do return (← maxLength f) * (← most)
  | group _ f => maxLength f
  | seq fs => totalOf (maxLengths fs)
  | alt fs => greatestOf (maxLengths fs)

def maxLengths : List Form → List (Option Nat)
  | [] => []
  | f :: fs => maxLength f :: maxLengths fs

end

mutual

/-- Whether every match begins at the start of the text. -/
def fromStart : Form → Bool
  | look l _ => l == .textStart
  | repeated f least _ _ => 0 < least && fromStart f
  | group _ f => fromStart f
  | seq fs => firstFromStart fs
  | alt fs => allFromStart fs
  | empty | text _ | set .. => false

/-- Whether one of the parts up to the first that takes text begins at the start. -/
def firstFromStart : List Form → Bool
  | [] => false
  | f :: fs => fromStart f || (maxLength f == some 0 && firstFromStart fs)

def allFromStart : List Form → Bool
  | [] => true
  | f :: fs => fromStart f && allFromStart fs

end

mutual

/-- Whether every match stops at the end of the text. -/
def toEnd : Form → Bool
  | look l _ => l == .textEnd
  | repeated f least _ _ => 0 < least && toEnd f
  | group _ f => toEnd f
  | seq fs => lastToEnd fs
  | alt fs => allToEnd fs
  | empty | text _ | set .. => false

/-- Whether one of the parts behind the last that takes text, or that part, stops at the end. -/
def lastToEnd : List Form → Bool
  | [] => false
  | f :: fs => lastToEnd fs || (restIsShort fs && toEnd f)

def allToEnd : List Form → Bool
  | [] => true
  | f :: fs => toEnd f && allToEnd fs

/-- Whether none of the parts takes text. -/
def restIsShort : List Form → Bool
  | [] => true
  | f :: fs => maxLength f == some 0 && restIsShort fs

end

mutual

/-- Whether the edges of words of letters beyond ASCII are asked for. -/
def asksWideWords : Form → Bool
  | look _ isWide => isWide
  | repeated f .. | group _ f => asksWideWords f
  | seq fs | alt fs => anyAsksWideWords fs
  | empty | text _ | set .. => false

def anyAsksWideWords : List Form → Bool
  | [] => false
  | f :: fs => asksWideWords f || anyAsksWideWords fs

end

/-- What nothing matches. -/
def fail : Form := set .empty false

/-- A character of a set, simplified. -/
def ofRanges (ranges : Ranges) (isWide : Bool) : Form :=
  if ranges.isEmpty then fail
  else
    match ranges.only? with
    | some c => text [c]
    | none => set ranges isWide

/-- A repetition, simplified. What takes no text is asked for once at most. -/
def ofRepeated (f : Form) (least : Nat) (most : Option Nat) (isLazy : Bool) : Form :=
  let isShort := maxLength f == some 0
  let least := if isShort then min least 1 else least
  let most := if isShort then some (min (most.getD 1) 1) else most
  if least = 0 ∧ most = some 0 then empty
  else if least = 1 ∧ most = some 1 then f
  else repeated f least most isLazy

/-- Puts a part before others; text joins text. -/
def putFirst (f : Form) (fs : List Form) : List Form :=
  match f, fs with
  | empty, fs => fs
  | text a, text b :: rest => text (a ++ b) :: rest
  | f, fs => f :: fs

/-- A sequence, simplified. -/
def ofSeq (fs : List Form) : Form :=
  let parts := fs.flatMap fun
    | seq gs => gs
    | f => [f]
  match parts.foldr putFirst [] with
  | [] => empty
  | [f] => f
  | fs => seq fs

/-- The characters, if all are texts of one character. -/
def singles? (fs : List Form) : Option Ranges := do
  let chars ← fs.mapM fun
    | text [c] => some c
    | _ => none
  return .ofSpans (chars.map fun c => (c.toNat, c.toNat))

/-- The union, if all are sets. -/
def sets? (fs : List Form) : Option Ranges := do
  let spans ← fs.mapM fun
    | set r _ => some r.spans
    | _ => none
  return .ofSpans spans.flatten

def parts? : Form → Option (List Form)
  | seq fs => some fs
  | _ => none

/-- The start that two lists share. -/
def sharedStart : List Form → List Form → List Form
  | f :: fs, g :: gs => if same f g then f :: sharedStart fs gs else []
  | _, _ => []

/-- The start that all sequences share, and the rest of each. -/
def shared? (fs : List Form) : Option (List Form × List (List Form)) := do
  match ← fs.mapM parts? with
  | [] => none
  | first :: rest =>
    let start := rest.foldl sharedStart first
    if start.isEmpty then none
    else return (start, (first :: rest).map (·.drop start.length))

mutual

/-- The number of parts. -/
def size : Form → Nat
  | repeated f .. | group _ f => size f + 1
  | seq fs | alt fs => sizes fs + 1
  | empty | text _ | set .. | look .. => 1

def sizes : List Form → Nat
  | [] => 0
  | f :: fs => size f + sizes fs

end

/-- Alternatives, simplified. The fuel bounds how often a shared start is taken out. -/
def simplifyAlt : Nat → List Form → Form
  | 0, fs => alt fs
  | fuel + 1, fs =>
    let fs := fs.flatMap fun
      | alt gs => gs
      | f => [f]
    match fs with
    | [] => fail
    | [f] => f
    | fs =>
      match singles? fs, sets? fs, shared? fs with
      | some r, _, _ | none, some r, _ => ofRanges r true
      | none, none, some (start, rests) => ofSeq (start ++ [simplifyAlt fuel (rests.map ofSeq)])
      | none, none, none => alt fs

def ofAlt (fs : List Form) : Form := simplifyAlt (sizes fs + 1) fs

mutual

/-- The expression that the form stands for. -/
def toRegex : Form → Regex
  | empty => .empty
  | text cs => seqs (cs.map fun c => .char (.single c))
  | set r _ => .char r.toSet
  | look l _ => .look l
  | repeated f least most _ => .repeated (toRegex f) least most
  | group _ f => toRegex f
  | seq fs => seqs (toRegexes fs)
  | alt fs =>
    match toRegexes fs with
    | [] => .char .empty
    | r :: rs => rs.foldl .alt r

def toRegexes : List Form → List Regex
  | [] => []
  | f :: fs => toRegex f :: toRegexes fs

end

end Form
end ScriptBundle.Regex
