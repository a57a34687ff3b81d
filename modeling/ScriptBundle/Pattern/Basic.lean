/-!
# Source patterns

A pattern names many files at once. A question mark stands for any character, a star for any run of
them, brackets for one character of a class, or outside of it after an exclamation mark. Two stars
that fill a whole segment stand for any number of directories. There is no escape character.

The syntax is checked over the whole pattern first and then again segment by segment, so a class
that reaches over a slash is refused, with its position inside the segment.
-/

namespace ScriptBundle

namespace Pattern

/-- The characters from `low` to `high`; none if they are in the wrong order. -/
structure Span where
  low : Char
  high : Char
  deriving DecidableEq, Repr

inductive Token where
  | char (c : Char)
  | anyChar
  | anyRun
  | anyDepth
  | within (spans : List Span)
  | except (spans : List Span)
  deriving DecidableEq, Repr

inductive Fault where
  /-- Three stars in a row. -/
  | tooManyStars
  /-- Two stars that do not fill a segment. -/
  | partialSegment
  /-- A bracket without an end. -/
  | openClass
  deriving DecidableEq, Repr

structure Error where
  /-- The number of characters before the fault. -/
  position : Nat
  fault : Fault
  deriving DecidableEq, Repr

def Fault.message : Fault → String
  | .tooManyStars => "wildcards are either regular `*` or recursive `**`"
  | .partialSegment => "recursive wildcards must form a single path component"
  | .openClass => "invalid range pattern"

def Error.message (e : Error) : String :=
  s!"Pattern syntax error near position {e.position}: {e.fault.message}"

/-- The members of a class. A hyphen between two characters makes a span. -/
def spans : List Char → List Span
  | a :: '-' :: b :: rest => ⟨a, b⟩ :: spans rest
  | a :: rest => ⟨a, a⟩ :: spans rest
  | [] => []

/-- The members of a class and what follows its bracket. The first member may be a bracket. -/
def takeClass? : List Char → Option (List Char × List Char)
  | [] => none
  | c :: rest =>
    match rest.dropWhile (· ≠ ']') with
    | [] => none
    | _ :: after => some (c :: rest.takeWhile (· ≠ ']'), after)

theorem length_lt_of_takeClass? {text members after : List Char}
    (h : takeClass? text = some (members, after)) :
    members.length + after.length < text.length := by
  cases text with
  | nil => simp [takeClass?] at h
  | cons c rest =>
    simp only [takeClass?] at h
    split at h
    · simp at h
    · next b tail hd =>
      have hl := congrArg List.length (List.takeWhile_append_dropWhile (p := (· ≠ ']')) (l := rest))
      simp only [Option.some.injEq, Prod.mk.injEq] at h
      rw [List.length_append, hd] at hl
      rw [← h.1, ← h.2]
      simp only [List.length_cons] at hl ⊢
      omega

/-- The token for a bracket and what follows it, given the text behind the bracket. -/
def bracket? : List Char → Option (Token × List Char)
  | '!' :: text => (takeClass? text).map fun (members, after) => (.except (spans members), after)
  | text => (takeClass? text).map fun (members, after) => (.within (spans members), after)

theorem length_lt_of_bracket? {text after : List Char} {token : Token}
    (h : bracket? text = some (token, after)) : after.length < text.length := by
  unfold bracket? at h
  split at h <;>
  · obtain ⟨⟨m, a⟩, ht, he⟩ := Option.map_eq_some_iff.1 h
    have := length_lt_of_takeClass? ht
    simp only [Prod.mk.injEq] at he
    simp only [List.length_cons, ← he.2]
    omega

/-- Reads tokens, given whether a segment starts here and how many characters came before. -/
def tokensFrom (atStart : Bool) (position : Nat) (text : List Char) : Except Error (List Token) :=
  match text with
  | [] => .ok []
  | '*' :: '*' :: '*' :: _ => .error ⟨position + 2, .tooManyStars⟩
  | ['*', '*'] => if atStart then .ok [.anyDepth] else .error ⟨position - 1, .partialSegment⟩
  | '*' :: '*' :: c :: rest =>
    if !atStart then .error ⟨position - 1, .partialSegment⟩
    else if c = '/' then return .anyDepth :: (← tokensFrom true (position + 3) rest)
    else .error ⟨position + 2, .partialSegment⟩
  | '*' :: rest => return .anyRun :: (← tokensFrom false (position + 1) rest)
  | '?' :: rest => return .anyChar :: (← tokensFrom false (position + 1) rest)
  | '[' :: rest =>
    match h : bracket? rest with
    | none => .error ⟨position, .openClass⟩
    | some (token, after) =>
      have := length_lt_of_bracket? h
      return token :: (← tokensFrom false (position + 1 + (rest.length - after.length)) after)
  | c :: rest => return .char c :: (← tokensFrom (c == '/') (position + 1) rest)
termination_by text.length

def tokens (text : List Char) : Except Error (List Token) := tokensFrom true 0 text

/-- Whether the token stands for this one character. -/
def Token.accepts : Token → Char → Bool
  | .char c, d => c == d
  | .anyChar, _ => true
  | .within spans, d => spans.any fun s => s.low ≤ d && d ≤ s.high
  | .except spans, d => !spans.any fun s => s.low ≤ d && d ≤ s.high
  | .anyRun, _ | .anyDepth, _ => false

def suffixes : List Char → List (List Char)
  | [] => [[]]
  | c :: rest => (c :: rest) :: suffixes rest

/-- What may be left of a name after one more token, given what may be left before it. The longest
rest comes first, and as all of them are ends of one name, a run leaves every end of the longest. -/
def restsAfter (rests : List (List Char)) : Token → List (List Char)
  | .anyRun | .anyDepth => (rests.head?.map suffixes).getD []
  | token =>
    rests.filterMap fun
      | c :: rest => if token.accepts c then some rest else none
      | [] => none

/-- Whether the tokens stand for the whole name. -/
def accepts (tokens : List Token) (name : List Char) : Bool :=
  (tokens.foldl restsAfter [name]).any (·.isEmpty)

/-- The one name that the tokens stand for, if there is no wildcard among them. -/
def literal? (tokens : List Token) : Option (List Char) :=
  tokens.mapM fun
    | .char c => some c
    | _ => none

/-- One segment of a pattern. -/
inductive Step where
  /-- Any number of directories. -/
  | depth
  | name (tokens : List Token)
  deriving DecidableEq, Repr

def Step.ofTokens (tokens : List Token) : Step :=
  if tokens = [.anyDepth] then .depth else .name tokens

/-- Puts a step in front; two depths in a row are one. -/
def consStep : Step → List Step → List Step
  | .depth, .depth :: rest => .depth :: rest
  | step, rest => step :: rest

end Pattern

/-- A pattern, ready to be walked. -/
structure Pattern where
  /-- Whether the walk starts at the root. -/
  absolute : Bool
  steps : List Pattern.Step
  /-- Whether a trailing slash asks for directories. -/
  wantsDirectory : Bool
  deriving DecidableEq, Repr

namespace Pattern

/-- The segments of a pattern; a trailing slash adds none. -/
def segments (text : List Char) : List (List Char) :=
  let all := text.splitOn '/'
  if all.getLast? = some [] then all.dropLast else all

def parse (text : List Char) : Except Error Pattern := do
  let _ ← tokens text
  let absolute := text.head? == some '/'
  let steps ← (segments (if absolute then text.drop 1 else text)).mapM tokens
  return {
    absolute
    steps := (steps.map Step.ofTokens).foldr consStep []
    wantsDirectory := text.getLast? == some '/' }

/-- Whether a text has a wildcard, so that it is a pattern and not a plain path. -/
def hasWildcard (text : String) : Bool := text.toList.any fun c => c == '*' || c == '?' || c == '['

end Pattern
end ScriptBundle
