import ScriptBundle.Regex.Basic

/-!
# The expressions of the system's tools

Tools on texts read expressions in a basic or an extended form. In the basic form groups, bounds and
alternatives stand behind a backslash, and a star or an anchor where it can mean nothing stands for
itself. The extended form has them without a backslash. The characters are octets.
-/

namespace ScriptBundle.Regex.Posix

/-- How expressions are read. -/
structure Dialect where
  extended : Bool
  anyCase : Bool := false
  /-- Whether anchors hold at each line of a text. -/
  lines : Bool := false
  /-- Whether a repetition of nothing is refused. -/
  strict : Bool := false
  deriving DecidableEq, Repr

/-- How far an expression is read, the groups that have begun, and those that are over. -/
structure Cursor where
  rest : List Char
  begun : Nat := 0
  finished : List Nat := []

abbrev Read := StateT Cursor (Except String)

def rest : Read (List Char) := return (← get).rest

def leave (rest : List Char) : Read Unit := modify fun s => { s with rest }

/-! ### Sets in brackets -/

def unclosed : String := "Unmatched [, [^, [:, [., or [="

/-- The classes that a set may name. -/
def class? (anyCase : Bool) (name : String) : Option CharSet :=
  if anyCase && (name == "upper" || name == "lower") then CharSet.named? "alpha"
  else if name == "ascii" || name == "word" then none
  else CharSet.named? name

/-- The text up to a mark and a closing bracket, and what is behind them. -/
def upToMark (mark : Char) : List Char → Option (List Char × List Char)
  | [] => none
  | c :: text =>
    match text with
    | ']' :: after => if c = mark then some ([], after) else (upToMark mark text).map fun (a, b) => (c :: a, b)
    | _ => (upToMark mark text).map fun (a, b) => (c :: a, b)

/-- A member of a set: a character, or a class. -/
inductive Member where
  | char (c : Char)
  | set (s : CharSet)

def member (anyCase : Bool) : List Char → Except String (Member × List Char)
  | '[' :: ':' :: text =>
    match upToMark ':' text with
    | none => .error unclosed
    | some (name, after) =>
      match class? anyCase (String.ofList name) with
      | some s => .ok (.set s, after)
      | none => .error "Invalid character class name"
  | '[' :: mark :: text =>
    if mark = '.' ∨ mark = '=' then
      match upToMark mark text with
      | none => .error unclosed
      | some ([c], after) => .ok (if mark = '.' then .char c else .set (.single c), after)
      | some _ => .error "Invalid collation character"
    else .ok (.char '[', mark :: text)
  | c :: text => .ok (.char c, text)
  | [] => .error unclosed

/-- The members up to the closing bracket. -/
def members (anyCase : Bool) : Nat → Bool → List Char → Except String (CharSet × List Char)
  | 0, _, _ => .error unclosed
  | fuel + 1, isFirst, text =>
    match text, isFirst with
    | [], _ => .error unclosed
    | ']' :: after, false => .ok (.empty, after)
    | '-' :: c :: _, false =>
      if c = ']' then do
        let (set, after) ← members anyCase fuel false (text.drop 1)
        return (.union (.single '-') set, after)
      else .error "Invalid range end"
    | _, _ => do
      let (low, after) ← member anyCase text
      let (set, after) ← match after with
        | '-' :: ']' :: _ => pure (none, after)
        | '-' :: more => do
          let (high, after) ← member anyCase more
          match low, high with
          | .char a, .char b =>
            if a ≤ b then pure (some (CharSet.span a b), after) else throw "Invalid range end"
          | _, _ => throw "Invalid range end"
        | _ => pure (none, after)
      let one := set.getD (match low with
        | .char c => .single c
        | .set s => s)
      let (others, after) ← members anyCase fuel false after
      return (.union one others, after)

/-- A set, behind its opening bracket. -/
def bracket (anyCase : Bool) (text : List Char) : Except String (CharSet × List Char) := do
  let (negated, text) := match text with
    | '^' :: text => (true, text)
    | _ => (false, text)
  if text.isEmpty then throw "Invalid regular expression"
  let (set, after) ← members anyCase (text.length + 1) true text
  let set := if anyCase then set.anyCase else set
  return (if negated then .complement set else set, after)

/-! ### Signs -/

/-- What is behind a sign that has a backslash in the basic form alone. -/
def behind? (extended : Bool) (c : Char) : List Char → Option (List Char)
  | '\\' :: d :: text => if !extended && c == d then some text else none
  | d :: text => if extended && c == d then some text else none
  | [] => none

/-- Bounds of a repetition. -/
structure Bounds where
  least : Nat
  most : Option Nat
  deriving DecidableEq, Repr

def boundLimit : Nat := 32767

/-- Reads bounds behind their opening brace. None means that there are none. -/
def bounds (d : Dialect) (text : List Char) : Except String (Option (Bounds × List Char)) :=
  let number (text : List Char) : Option Nat × List Char :=
    let digits := text.takeWhile Char.isDigit
    (if digits.isEmpty then none else (String.ofList digits).toNat?, text.drop digits.length)
  let fail (message : String) : Except String (Option (Bounds × List Char)) :=
    if d.extended && !d.strict then .ok none else .error message
  let (least, after) := number text
  let read : Option (Bounds × List Char) :=
    match after with
    | ',' :: more =>
      let (most, after) := number more
      some (⟨least.getD 0, most⟩, after)
    | _ => least.map fun n => (⟨n, some n⟩, after)
  match read with
  | none => fail (if after.isEmpty then "Unmatched \\\x7b" else "Invalid content of \\\x7b\\\x7d")
  | some (b, after) =>
    match behind? d.extended '}' after with
    | none => fail (if after.isEmpty then "Unmatched \\\x7b" else "Invalid content of \\\x7b\\\x7d")
    | some after =>
      if b.most.any (· < b.least) then .error "Invalid content of \\\x7b\\\x7d"
      else if (b.most.getD b.least) > boundLimit then .error "Regular expression too big"
      else .ok (some (b, after))

/-- Reads the sign of a repetition, if there is one. -/
def repetition? (d : Dialect) (text : List Char) : Except String (Option (Bounds × List Char)) :=
  match text with
  | '*' :: after => .ok (some (⟨0, none⟩, after))
  | _ =>
    match behind? d.extended '+' text, behind? d.extended '?' text, behind? d.extended '{' text with
    | some after, _, _ => .ok (some (⟨1, none⟩, after))
    | _, some after, _ => .ok (some (⟨0, some 1⟩, after))
    | _, _, some after => bounds d after
    | _, _, _ => .ok none

/-- Adds the repetitions behind a part. In a strict basic expression there is one at most. -/
def repetitions (d : Dialect) : Nat → Bool → Regex → Read Regex
  | 0, _, r => return r
  | fuel + 1, isFirst, r => do
    let text ← rest
    match ← (repetition? d text : Except String _) with
    | none => return r
    | some (b, after) =>
      let isBasic := text.head? = some '*' || text.take 2 = ['\\', '{']
      if d.strict && !d.extended && !isFirst && isBasic then
        throw "Invalid preceding regular expression"
      leave after
      repetitions d fuel false (.repeated r b.least b.most)

/-! ### Expressions -/

def charSet (d : Dialect) (c : Char) : CharSet :=
  if d.anyCase then .anyCase (.single c) else .single c

def startLook (d : Dialect) : Look := if d.lines then .lineStart else .textStart

def endLook (d : Dialect) : Look := if d.lines then .lineEnd else .textEnd

/-- What a letter behind a backslash asks of a place. -/
def look? : Char → Option Look
  | 'b' => some .wordEdge
  | 'B' => some .noWordEdge
  | '<' => some .wordStart
  | '>' => some .wordEnd
  | '\x60' => some .textStart
  | '\'' => some .textEnd
  | _ => none

/-- The set that a letter behind a backslash stands for. -/
def set? : Char → Option CharSet
  | 'w' => some .wordChars
  | 'W' => some (.complement .wordChars)
  | 's' => some .spaces
  | 'S' => some (.complement .spaces)
  | _ => none

mutual

/-- Alternatives, in so many groups. -/
def alternatives (d : Dialect) : Nat → Nat → Read Regex
  | 0, _ => return .empty
  | fuel + 1, depth => do
    let first ← sequence d fuel depth true
    match behind? d.extended '|' (← rest) with
    | some after =>
      leave after
      return .alt first (← alternatives d fuel depth)
    | none => return first

/-- Parts one after the other. -/
def sequence (d : Dialect) : Nat → Nat → Bool → Read Regex
  | 0, _, _ => return .empty
  | fuel + 1, depth, isFirst => do
    let text ← rest
    let isClose := (behind? d.extended ')' text).isSome
    if text.isEmpty || (behind? d.extended '|' text).isSome || (isClose && depth != 0) then return .empty
    if isClose && (!d.extended || d.strict) then throw "Unmatched ) or \\)"
    let part ← single d fuel depth isFirst
    let others ← sequence d fuel depth false
    return match others with
      | .empty => part
      | others => .seq part others

/-- One part with its repetitions. -/
def single (d : Dialect) : Nat → Nat → Bool → Read Regex
  | 0, _, _ => return .empty
  | fuel + 1, depth, isFirst => do
    let text ← rest
    let plain (c : Char) (after : List Char) : Read Regex := do
      leave after
      repetitions d (after.length + 1) true (.char (charSet d c))
    match behind? d.extended '(' text with
    | some after => do
      let number := (← get).begun + 1
      modify fun s => { s with rest := after, begun := number }
      let inner ← alternatives d fuel (depth + 1)
      match behind? d.extended ')' (← rest) with
      | none => throw "Unmatched ( or \\("
      | some after =>
        modify fun s => { s with rest := after, finished := number :: s.finished }
        repetitions d (after.length + 1) true (.group number inner)
    | none =>
      match ← (repetition? d text : Except String _) with
      | some (_, after) => do
        let isBrace := (behind? d.extended '{' text).isSome
        if d.strict && (d.extended || isBrace) then throw "Invalid preceding regular expression"
        if d.extended then
          leave after
          if after.isEmpty then return .empty
          single d fuel depth isFirst
        else
          match text with
          | '\\' :: c :: after => plain c after
          | c :: after => plain c after
          | [] => return .empty
      | none =>
        match text with
        | [] => return .empty
        | '[' :: after => do
          let (set, after) ← (bracket d.anyCase after : Except String _)
          leave after
          repetitions d (after.length + 1) true (.char set)
        | '.' :: after => do
          leave after
          repetitions d (after.length + 1) true (.char (.complement (.single '\x00')))
        | '^' :: after =>
          if d.extended || isFirst then
            leave after
            return .look (startLook d)
          else plain '^' after
        | '$' :: after =>
          if d.extended || after.isEmpty || (behind? false '|' after).isSome || (behind? false ')' after).isSome then
            leave after
            return .look (endLook d)
          else plain '$' after
        | ['\\'] => throw "Trailing backslash"
        | '\\' :: c :: after =>
          match look? c, set? c with
          | some l, _ =>
            leave after
            return .look l
          | none, some set =>
            leave after
            repetitions d (after.length + 1) true (.char set)
          | none, none =>
            if '1' ≤ c && c ≤ '9' then
              let number := c.toNat - '0'.toNat
              if !(← get).finished.contains number then throw "Invalid back reference"
              leave after
              repetitions d (after.length + 1) true (.again number d.anyCase)
            else plain c after
        | c :: after => plain c after

end

/-- Reads an expression. -/
def read (d : Dialect) (text : List Char) : Except String Regex :=
  ((alternatives d (4 * text.length + 4) 0).run { rest := text }).map (·.1)

end ScriptBundle.Regex.Posix
