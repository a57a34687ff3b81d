import ScriptBundle.Regex.Match

/-!
# Faults of a written expression

What can be wrong with an expression as it is written, and how it is shown: the expression, with
carets below the piece that is at fault, and the cause.
-/

namespace ScriptBundle.Regex

inductive Cause where
  | classEscape
  | classRange
  | classRangeEnd
  | classUnclosed
  | decimalInvalid
  | hexEmpty
  | hexInvalid
  | hexDigit
  | escapeAtEnd
  | escapeUnknown
  | flagDangling
  | flagRepeated
  | flagNegatedTwice
  | flagAtEnd
  | flagUnknown
  | groupNameRepeated
  | groupNameEmpty
  | groupNameChar
  | groupNameAtEnd
  | groupUnclosed
  | groupUnopened
  | nestedTooDeep (limit : Nat)
  | countRange
  | countEmpty
  | countUnclosed
  | nothingToRepeat
  | wordEdgeUnclosed
  | wordEdgeUnknown
  | wordEdgeAtEnd
  | propertyInvalid
  | backReference
  | lookAround
  /-- What follows is well written and still stands for nothing that can be searched for. -/
  | wideNotAllowed
  | brokenText
  | propertyUnknown
  | propertyValueUnknown
  | shorthandUnavailable
  | caseUnavailable
  deriving DecidableEq, Repr

def Cause.message : Cause → String
  | .classEscape => "invalid escape sequence found in character class"
  | .classRange => "invalid character class range, the start must be <= the end"
  | .classRangeEnd => "invalid range boundary, must be a literal"
  | .classUnclosed => "unclosed character class"
  | .decimalInvalid => "decimal literal invalid"
  | .hexEmpty => "hexadecimal literal empty"
  | .hexInvalid => "hexadecimal literal is not a Unicode scalar value"
  | .hexDigit => "invalid hexadecimal digit"
  | .escapeAtEnd => "incomplete escape sequence, reached end of pattern prematurely"
  | .escapeUnknown => "unrecognized escape sequence"
  | .flagDangling => "dangling flag negation operator"
  | .flagRepeated => "duplicate flag"
  | .flagNegatedTwice => "flag negation operator repeated"
  | .flagAtEnd => "expected flag but got end of regex"
  | .flagUnknown => "unrecognized flag"
  | .groupNameRepeated => "duplicate capture group name"
  | .groupNameEmpty => "empty capture group name"
  | .groupNameChar => "invalid capture group character"
  | .groupNameAtEnd => "unclosed capture group name"
  | .groupUnclosed => "unclosed group"
  | .groupUnopened => "unopened group"
  | .nestedTooDeep limit => s!"exceed the maximum number of nested parentheses/brackets ({limit})"
  | .countRange => "invalid repetition count range, the start must be <= the end"
  | .countEmpty => "repetition quantifier expects a valid decimal"
  | .countUnclosed => "unclosed counted repetition"
  | .nothingToRepeat => "repetition operator missing expression"
  | .wordEdgeUnclosed =>
    "special word boundary assertion is either unclosed or contains an invalid character"
  | .wordEdgeUnknown =>
    "unrecognized special word boundary assertion, valid choices are: start, end, start-half " ++
      "or end-half"
  | .wordEdgeAtEnd =>
    "found either the beginning of a special word boundary or a bounded repetition on a \\b with " ++
      "an opening brace, but no closing brace"
  | .propertyInvalid => "invalid Unicode character class"
  | .backReference => "backreferences are not supported"
  | .lookAround => "look-around, including look-ahead and look-behind, is not supported"
  | .wideNotAllowed => "Unicode not allowed here"
  | .brokenText => "pattern can match invalid UTF-8"
  | .propertyUnknown => "Unicode property not found"
  | .propertyValueUnknown => "Unicode property value not found"
  | .shorthandUnavailable =>
    "Unicode-aware Perl class not found (make sure the unicode-perl feature is enabled)"
  | .caseUnavailable =>
    "Unicode-aware case insensitivity matching is not available (make sure the unicode-case " ++
      "feature is enabled)"

/-- A fault of a piece of an expression, perhaps with an earlier piece that it clashes with. -/
structure Fault where
  place : Extent
  cause : Cause
  earlier : Option Extent := none
  deriving DecidableEq, Repr

namespace Fault

def spaces (n : Nat) : List Char := List.replicate n ' '

/-- The number of the line of a position and its column, both from zero. -/
def lineColumn (text : List Char) (position : Nat) : Nat × Nat :=
  let before := text.take position
  (before.count '\n', (before.reverse.takeWhile (· ≠ '\n')).length)

/-- The lines of an expression. One that ends in a line feed has no line behind it, and a carriage
return before a line feed belongs to the end of the line. -/
def lines (text : List Char) : List (List Char) :=
  let all := text.splitOn '\n'
  let ended := all.dropLast.map fun line =>
    if line.getLast? = some '\r' then line.dropLast else line
  match all.getLast? with
  | none | some [] => ended
  | some last => ended ++ [last]

/-- Carets from one column to another, at least one. -/
def carets (marks : List (Nat × Nat)) : List Char :=
  marks.foldl (fun drawn (first, stop) =>
    drawn ++ spaces (first - drawn.length) ++ List.replicate (max 1 (stop - first)) '^') []

/-- The extents that lie in one line, as columns. -/
def marksIn (text : List Char) (extents : List Extent) (line : Nat) : List (Nat × Nat) :=
  let inLine := extents.filterMap fun e =>
    let (l, first) := lineColumn text e.start
    let (m, stop) := lineColumn text e.stop
    if l = line ∧ m = line then some (first, stop) else none
  inLine.mergeSort fun a b => a.1 < b.1 || (a.1 == b.1 && a.2 ≤ b.2)

/-- Where an extent over several lines begins and ends. -/
def spread? (text : List Char) (e : Extent) : Option String :=
  let (l, first) := lineColumn text e.start
  let (m, stop) := lineColumn text e.stop
  if l = m then none
  else some s!"on line {l + 1} (column {first + 1}) through line {m + 1} (column {stop})"

/-- The expression with carets below the extents. The lines are numbered if there are several. -/
def drawing (text : List Char) (extents : List Extent) : List Char :=
  let all := lines text
  let count := all.length + (if text.getLast? = some '\n' then 1 else 0)
  let width := (toString count).length
  let numbered := count > 1
  (all.zipIdx.map fun (line, i) =>
    let number := (toString (i + 1)).toList
    let head := if numbered then spaces (width - number.length) ++ number ++ [':', ' '] else spaces 4
    let below :=
      match marksIn text extents i with
      | [] => []
      | marks => spaces head.length ++ carets marks ++ ['\n']
    head ++ line ++ ['\n'] ++ below).flatten

/-- The whole message. -/
def message (f : Fault) (text : List Char) : String :=
  let extents := f.place :: f.earlier.toList
  let picture := String.ofList (drawing text extents)
  let cause := "error: " ++ f.cause.message
  if text.contains '\n' then
    let rule := String.ofList (List.replicate 79 '~') ++ "\n"
    let notes := (extents.filterMap (spread? text)).map (· ++ "\n")
    "regex parse error:\n" ++ rule ++ picture ++ rule ++ String.join notes ++ cause
  else "regex parse error:\n" ++ picture ++ cause

end Fault
end ScriptBundle.Regex
