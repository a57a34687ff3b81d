import ScriptBundle.Regex.Posix
import ScriptBundle.Shell.Arithmetic

/-!
# Editing scripts

A script for `sed` is a list of commands, each with the lines it is for. Blocks are flat: a block says
where it ends, so that a run only has to jump. A script comes in pieces, each an argument or a file; a
fault names the piece and how far it was read.
-/

namespace ScriptBundle.Shell.Tool.Sed

/-! ### Commands -/

/-- Lines that a command is for. An expression that is left out is the one that was used last. -/
inductive Address where
  | line (n : Nat)
  /-- From a line on, every so many lines. -/
  | step (first every : Nat)
  | last
  | fits (r : Option Regex)

/-- Where a range of lines ends. -/
inductive Stop where
  | line (n : Nat)
  | after (n : Nat)
  | multiple (n : Nat)
  | last
  | fits (r : Option Regex)

structure Selection where
  start : Option Address := none
  stop : Option Stop := none
  negated : Bool := false

/-- A part of what replaces a match. -/
inductive Part where
  | char (c : Char)
  | group (n : Nat)
  | casing (letter : Char)

structure Substitution where
  regex : Option Regex
  parts : List Part
  /-- Which match is the first to be replaced. -/
  first : Nat := 1
  everywhere : Bool := false
  prints : Bool := false
  evaluates : Bool := false
  file : Option String := none

inductive Action where
  /-- Passes over a block that is not for the line. -/
  | block (past : Nat)
  | nothing
  | append (text : List Char)
  | insert (text : List Char)
  | change (text : List Char)
  | evaluate (command : String)
  /-- A command of one letter alone. -/
  | plain (letter : Char)
  | jump (letter : Char) (label : String)
  | list (width : Option Nat)
  | quit (prints : Bool) (status : Nat)
  | file (letter : Char) (name : String)
  | substitute (s : Substitution)
  | exchange (pairs : List (Char × Char))

structure Instruction where
  selection : Selection
  action : Action

instance : Inhabited Instruction := ⟨{}, .nothing⟩

structure Script where
  instructions : Array Instruction := #[]
  labels : List (String × Nat) := []
  quiet : Bool := false

/-! ### Reading -/

/-- A piece of a script. -/
inductive Source where
  | expression (number : Nat)
  | file (name : String)

/-- How far a script is read. -/
structure Reading where
  rest : List Char := []
  position : Nat := 0
  line : Nat := 1
  source : Source := .expression 1
  isFirst : Bool := true
  extended : Bool := false
  script : Script := {}
  /-- The blocks that are open: the places of their beginnings, and where they were read. -/
  blocks : List (Nat × Source × Nat) := []
  /-- A text that goes on in the next piece. -/
  isPending : Bool := false

abbrev Read := StateT Reading (Except String)

/-- A fault at the place that is reached. -/
def fail (text : String) : Read α := do
  let s ← get
  match s.source with
  | .expression n => throw s!"-e expression #{n}, char {s.position}: {text}"
  | .file name => throw s!"file {name} line {s.line}: {text}"

def next? : Read (Option Char) := do
  let s ← get
  match s.rest with
  | [] => return none
  | c :: rest =>
    set { s with rest, position := s.position + 1, line := if c = '\n' then s.line + 1 else s.line }
    return some c

/-- Goes back by the character that was read last. -/
def back (c : Option Char) : Read Unit :=
  match c with
  | none => return
  | some c => modify fun s => { s with
      rest := c :: s.rest
      position := s.position - 1
      line := if c = '\n' then s.line - 1 else s.line }

def isBlank (c : Char) : Bool := c == ' ' || c == '\t'

def isSpace (c : Char) : Bool := c == ' ' || ('\t' ≤ c && c ≤ '\r')

/-- Reads characters while they pass a test. -/
def takeWhile (test : Char → Bool) : Read (List Char) := do
  let run := (← get).rest.takeWhile test
  modify fun s => { s with
    rest := s.rest.drop run.length
    position := s.position + run.length
    line := s.line + run.count '\n' }
  return run

/-- The next character that is no blank. -/
def nextSolid? : Read (Option Char) := do
  let _ ← takeWhile isBlank
  next?

/-- The end of a command. -/
def endCommand : Read Unit := do
  match ← nextSolid? with
  | none | some '\n' | some ';' => return
  | some '\r' =>
    match ← next? with
    | none | some '\n' => return
    | _ => fail "extra characters after command"
  | some '}' => back (some '}')
  | some '#' => back (some '#')
  | some _ => fail "extra characters after command"

def number : Read (Option Nat) := do
  let digits ← takeWhile Char.isDigit
  return if digits.isEmpty then none else some (Arithmetic.numeral 10 digits).1

/-- The rest of the line, as the name of a file. -/
def fileName : Read String := do
  let _ ← takeWhile isBlank
  let name ← takeWhile (· ≠ '\n')
  let _ ← next?
  if name.isEmpty then fail "missing filename in r/R/w/W commands"
  return String.ofList name

/-- A label ends at a blank, a semicolon or the end of a block. -/
def label (closes : Bool) : Read String := do
  let _ ← takeWhile isBlank
  return String.ofList (← takeWhile fun c => !isSpace c && c != ';' && !(closes && c == '}'))

/-! ### Escapes -/

/-- The character that an escape gives by its number, and what is behind it. -/
def numbered? (base digits : Nat) (text : List Char) : Option (Char × List Char) :=
  let run := (text.takeWhile fun c => (Arithmetic.digit? base c).isSome).take digits
  if run.isEmpty then none
  else some (Char.ofNat ((Arithmetic.numeral base run).1 % 256), text.drop run.length)

/-- The character that an escape stands for, given what is behind its backslash. -/
def special? : List Char → Option (Char × List Char)
  | 'a' :: rest => some ('\x07', rest)
  | 'f' :: rest => some ('\x0c', rest)
  | 'r' :: rest => some ('\r', rest)
  | 't' :: rest => some ('\t', rest)
  | 'v' :: rest => some ('\x0b', rest)
  | 'c' :: c :: rest => some (Char.ofNat (c.toUpper.toNat ^^^ 64), rest)
  | 'd' :: rest => numbered? 10 3 rest
  | 'o' :: rest => numbered? 8 3 rest
  | 'x' :: rest => numbered? 16 2 rest
  | _ => none

/-- An expression with its escapes replaced by what they stand for. -/
def plainPattern : Nat → List Char → List Char
  | 0, text => text
  | fuel + 1, text =>
    match text with
    | '\\' :: rest =>
      match special? rest with
      | some (c, after) => c :: plainPattern fuel after
      | none =>
        match rest with
        | 'n' :: after => '\n' :: plainPattern fuel after
        | c :: after => '\\' :: c :: plainPattern fuel after
        | [] => ['\\']
    | c :: rest => c :: plainPattern fuel rest
    | [] => []

/-- A text with its escapes replaced; other backslashes go. -/
def plainText : Nat → List Char → List Char
  | 0, text => text
  | fuel + 1, text =>
    match text with
    | '\\' :: rest =>
      match special? rest with
      | some (c, after) => c :: plainText fuel after
      | none =>
        match rest with
        | c :: after => c :: plainText fuel after
        | [] => []
    | c :: rest => c :: plainText fuel rest
    | [] => []

/-! ### Delimited texts -/

/-- The length of a set in brackets, from its opening bracket on; none if it is not closed. -/
def setLength? (text : List Char) : Option Nat :=
  let (size, rest) := match text.drop 1 with
    | '^' :: ']' :: rest => (3, rest)
    | '^' :: rest => (2, rest)
    | ']' :: rest => (2, rest)
    | rest => (1, rest)
  go (rest.length + 1) size rest
where
  /-- Goes on to a mark and a bracket. -/
  named (mark : Char) : Nat → List Char → Option (Nat × List Char)
    | size, c :: ']' :: rest => if c = mark then some (size + 2, rest) else named mark (size + 1) (']' :: rest)
    | size, _ :: rest => named mark (size + 1) rest
    | _, [] => none
  go : Nat → Nat → List Char → Option Nat
    | 0, _, _ => none
    | fuel + 1, size, rest =>
      match rest with
      | [] | '\n' :: _ => none
      | ']' :: _ => some (size + 1)
      | '[' :: mark :: more =>
        if mark = ':' ∨ mark = '.' ∨ mark = '=' then
          (named mark (size + 2) more).bind fun (size, rest) => go fuel size rest
        else go fuel (size + 1) (mark :: more)
      | _ :: more => go fuel (size + 1) more

/-- Reads up to a delimiter. Escaped delimiters lose their backslash, and an escaped line feed is one
of the text. None if the text does not end. -/
def delimited (slash : Char) (isPattern : Bool) : Nat → Read (Option (List Char))
  | 0 => return none
  | fuel + 1 => do
    let s ← get
    match s.rest with
    | [] => return none
    | '\n' :: _ => return none
    | c :: rest =>
      if c = slash then
        let _ ← next?
        return some []
      else if c = '\\' then
        let _ ← next?
        match rest with
        | [] => return none
        | d :: _ =>
          let _ ← next?
          let body := if d = '\n' then ['\n']
            else if d = slash && (isPattern || d != '&') then [d]
            else ['\\', d]
          return (← delimited slash isPattern fuel).map (body ++ ·)
      else
        let size := if isPattern && c == '[' then setLength? s.rest else some 1
        match size with
        | none =>
          let _ ← takeWhile (· ≠ '\n')
          return none
        | some size =>
          modify fun s => { s with rest := s.rest.drop size, position := s.position + size }
          return (← delimited slash isPattern fuel).map (s.rest.take size ++ ·)

def delimitedText (slash : Char) (isPattern : Bool) : Read (Option (List Char)) := do
  delimited slash isPattern ((← get).rest.length + 1)

/-- An expression from its text; an empty one is left out. -/
def expression (text : List Char) (anyCase lines : Bool) : Read (Option Regex) := do
  if text.isEmpty then
    if anyCase || lines then fail "cannot specify modifiers on empty regexp"
    return none
  else
    let pattern := plainPattern (text.length + 1) text
    match Regex.Posix.read { extended := (← get).extended, anyCase, lines, strict := true } pattern with
    | .ok r => return some r
    | .error message => fail message

/-! ### Addresses -/

/-- The marks behind an expression. -/
def marks : Nat → Bool → Bool → Read (Bool × Bool)
  | 0, anyCase, lines => return (anyCase, lines)
  | fuel + 1, anyCase, lines => do
    match ← nextSolid? with
    | some 'I' => marks fuel true lines
    | some 'M' => marks fuel anyCase true
    | c =>
      back c
      return (anyCase, lines)

def pattern (slash : Char) : Read (Option Regex) := do
  match ← delimitedText slash true with
  | none => fail "unterminated address regex"
  | some text =>
    let (anyCase, lines) ← marks ((← get).rest.length + 1) false false
    expression text anyCase lines

/-- A number behind blanks, which may be missing. -/
def looseNumber : Read Nat := do
  let _ ← takeWhile isBlank
  return (← number).getD 0

/-- Reads an address that begins with a character. -/
def address? (c : Option Char) : Read (Option Address) := do
  match c with
  | some '/' => return some (.fits (← pattern '/'))
  | some '\\' =>
    match ← next? with
    | none => fail "unterminated address regex"
    | some slash => return some (.fits (← pattern slash))
  | some '$' => return some .last
  | some '+' | some '~' =>
    let _ ← looseNumber
    fail "invalid usage of +N or ~N as first address"
  | some c =>
    if c.isDigit then
      back (some c)
      let n := (← number).getD 0
      match ← nextSolid? with
      | some '~' =>
        let every ← looseNumber
        return some (if every > 0 then .step n every else .line n)
      | c =>
        back c
        return some (.line n)
    else return none
  | none => return none

/-- Reads the end of a range. -/
def stop? (c : Option Char) : Read (Option Stop) := do
  match c with
  | some '+' => return some (.after (← looseNumber))
  | some '~' => return some (.multiple (← looseNumber))
  | _ =>
    match ← address? c with
    | none => return none
    | some (.line n) => return some (.line n)
    | some (.step n _) => return some (.line n)
    | some .last => return some .last
    | some (.fits r) => return some (.fits r)

/-- Reads the lines that a command is for, and the character behind them. -/
def selection (c : Option Char) : Read (Selection × Option Char) := do
  match ← address? c with
  | none => bang {} c
  | some start =>
    match ← nextSolid? with
    | some ',' =>
      match ← stop? (← nextSolid?) with
      | none => fail "unexpected \x60,'"
      | some stop =>
        let c ← nextSolid?
        match start, stop with
        | .line 0, .fits _ => bang { start := some start, stop := some stop } c
        | .line 0, _ => fail "invalid usage of line address 0"
        | _, _ => bang { start := some start, stop := some stop } c
    | c =>
      match start with
      | .line 0 => fail "invalid usage of line address 0"
      | _ => bang { start := some start } c
where
  bang (s : Selection) (c : Option Char) : Read (Selection × Option Char) := do
    if c = some '!' then
      let c ← nextSolid?
      if c = some '!' then fail "multiple \x60!'s"
      return ({ s with negated := true }, c)
    else return (s, c)

/-! ### Commands -/

/-- The parts of what replaces a match. -/
def replacement : Nat → List Char → List Part
  | 0, _ => []
  | fuel + 1, text =>
    match text with
    | [] => []
    | '&' :: rest => .group 0 :: replacement fuel rest
    | '\\' :: rest =>
      match special? rest with
      | some (c, after) => .char c :: replacement fuel after
      | none =>
        match rest with
        | [] => [.char '\\']
        | c :: after =>
          let part : Part :=
            if c.isDigit then .group (c.toNat - '0'.toNat)
            else if "LUElu".toList.contains c then .casing c
            else if c = 'n' then .char '\n'
            else .char c
          part :: replacement fuel after
    | c :: rest => .char c :: replacement fuel rest

/-- What stands behind a substitution. -/
structure Flags where
  first : Option Nat := none
  everywhere : Bool := false
  prints : Bool := false
  evaluates : Bool := false
  anyCase : Bool := false
  lines : Bool := false
  file : Option String := none

def flags : Nat → Flags → Read Flags
  | 0, f => return f
  | fuel + 1, f => do
    match ← nextSolid? with
    | some 'i' | some 'I' => flags fuel { f with anyCase := true }
    | some 'm' | some 'M' => flags fuel { f with lines := true }
    | some 'e' => flags fuel { f with evaluates := true }
    | some 'p' =>
      if f.prints then fail "multiple \x60p' options to \x60s' command"
      flags fuel { f with prints := true }
    | some 'g' =>
      if f.everywhere then fail "multiple \x60g' options to \x60s' command"
      flags fuel { f with everywhere := true }
    | some 'w' => return { f with file := some (← fileName) }
    | none | some '\n' | some ';' => return f
    | some '}' =>
      back (some '}')
      return f
    | some '#' =>
      back (some '#')
      return f
    | some '\r' =>
      match ← next? with
      | some '\n' => return f
      | _ => fail "unknown option to \x60s'"
    | some c =>
      if c.isDigit then
        if f.first.isSome then fail "multiple number options to \x60s' command"
        back (some c)
        let n := (← number).getD 0
        if n = 0 then fail "number option to \x60s' command may not be zero"
        flags fuel { f with first := some n }
      else fail "unknown option to \x60s'"

def substitution : Read Action := do
  let unterminated := "unterminated \x60s' command"
  match ← next? with
  | none => fail unterminated
  | some slash =>
    match ← delimitedText slash true with
    | none => fail unterminated
    | some pattern =>
      match ← delimitedText slash false with
      | none => fail unterminated
      | some text =>
        let f ← flags ((← get).rest.length + 1) {}
        let regex ← expression pattern f.anyCase f.lines
        let parts := replacement (text.length + 1) text
        let greatest := parts.foldl (fun n p =>
          match p with
          | .group k => max n k
          | _ => n) 0
        if regex.any fun r => r.groups < greatest then
          fail s!"invalid reference \\{greatest} on \x60s' command's RHS"
        return .substitute ⟨regex, parts, f.first.getD 1, f.everywhere, f.prints, f.evaluates, f.file⟩

/-- The characters that `y` goes by. -/
def exchangeText : Nat → List Char → List Char
  | 0, _ => []
  | fuel + 1, text =>
    match text with
    | '\\' :: rest =>
      match special? rest with
      | some (c, after) => c :: exchangeText fuel after
      | none =>
        match rest with
        | 'n' :: after => '\n' :: exchangeText fuel after
        | c :: after => c :: exchangeText fuel after
        | [] => ['\\']
    | c :: rest => c :: exchangeText fuel rest
    | [] => []

def exchange : Read Action := do
  let unterminated := "unterminated \x60y' command"
  match ← next? with
  | none => fail unterminated
  | some slash =>
    match ← delimitedText slash false with
    | none => fail unterminated
    | some a =>
      match ← delimitedText slash false with
      | none => fail unterminated
      | some b =>
        let a := exchangeText (a.length + 1) a
        let b := exchangeText (b.length + 1) b
        if a.length ≠ b.length then fail "strings for \x60y' command are different lengths"
        endCommand
        return .exchange (a.zip b)

/-- Reads a text up to a line feed that is not escaped, and whether it ended in a backslash. -/
def textLines : Nat → Read (List Char × Bool)
  | 0 => return ([], false)
  | fuel + 1 => do
    match ← next? with
    | none | some '\n' => return ([], false)
    | some '\\' =>
      match ← next? with
      | none => return ([], true)
      | some c =>
        let (more, goesOn) ← textLines fuel
        return ('\\' :: c :: more, goesOn)
    | some c =>
      let (more, goesOn) ← textLines fuel
      return (c :: more, goesOn)

/-- Reads the text of a command, and whether it goes on in the next piece. -/
def text : Read (List Char × Bool) := do
  let (chars, goesOn) ← textLines ((← get).rest.length + 1)
  return (plainText (chars.length + 1) chars ++ ['\n'], goesOn)

def addedText (letter : Char) (chars : List Char) : Action :=
  match letter with
  | 'a' => .append chars
  | 'i' => .insert chars
  | _ => .change chars

/-- Reads what is added, behind its letter. -/
def addition (letter : Char) : Read Action := do
  match ← nextSolid? with
  | none => fail "expected \\ after \x60a', \x60c' or \x60i'"
  | some '\\' =>
    match ← next? with
    | none =>
      modify fun s => { s with isPending := true }
      return addedText letter []
    | c =>
      if c ≠ some '\n' then back c
      let (chars, goesOn) ← text
      modify fun s => { s with isPending := goesOn }
      return addedText letter chars
  | c =>
    back c
    let (chars, goesOn) ← text
    modify fun s => { s with isPending := goesOn }
    return addedText letter chars

def add (s : Selection) (a : Action) : Read Unit :=
  modify fun r => { r with
    script := { r.script with instructions := r.script.instructions.push ⟨s, a⟩ } }

def here : Read Nat := return (← get).script.instructions.size

/-- Sets where an open block ends. -/
def closeBlock (place past : Nat) : Read Unit :=
  modify fun r =>
    let s := (r.script.instructions[place]?.map (·.selection)).getD {}
    { r with script := { r.script with
        instructions := r.script.instructions.setIfInBounds place ⟨s, .block past⟩ } }

/-- Reads a comment; the very first one may ask for silence. -/
def comment : Read Unit := do
  let s ← get
  let line ← takeWhile (· ≠ '\n')
  if s.isFirst && s.position = 1 && line.head? = some 'n' then
    modify fun r => { r with script := { r.script with quiet := true } }

/-- Reads a command behind the lines it is for. -/
def command (s : Selection) (c : Option Char) : Read Unit := do
  match c with
  | none | some '\n' | some ';' => fail "missing command"
  | some '#' =>
    if s.start.isSome then fail "comments don't accept any addresses"
    comment
  | some '{' =>
    let place ← here
    add s (.block 0)
    modify fun r => { r with blocks := (place, r.source, r.line) :: r.blocks }
  | some '}' =>
    match (← get).blocks with
    | [] => fail "unexpected \x60\x7d'"
    | (place, _) :: blocks =>
      if s.start.isSome then fail "\x60\x7d' doesn't want any addresses"
      endCommand
      add {} .nothing
      closeBlock place (← here)
      modify fun r => { r with blocks }
  | some ':' =>
    if s.start.isSome then fail ": doesn't want any addresses"
    let name ← label false
    if name = "" then fail "\":\" lacks a label"
    let place ← here
    modify fun r => { r with script := { r.script with labels := r.script.labels ++ [(name, place)] } }
  | some 'v' =>
    let version ← label true
    if version ≠ "" && !version.startsWith "4." && !version.startsWith "3." then
      fail "expected newer version of sed"
    endCommand
  | some 'e' =>
    let _ ← takeWhile isBlank
    let line ← takeWhile (· ≠ '\n')
    let _ ← next?
    add s (.evaluate (String.ofList line))
  | some 's' => add s (← substitution)
  | some 'y' => add s (← exchange)
  | some 'r' => add s (.file 'r' (← fileName))
  | some 'R' => add s (.file 'R' (← fileName))
  | some 'w' => add s (.file 'w' (← fileName))
  | some 'W' => add s (.file 'W' (← fileName))
  | some c =>
    if c = 'a' ∨ c = 'i' ∨ c = 'c' then add s (← addition c)
    else if c = 'b' ∨ c = 't' ∨ c = 'T' then
      let name ← label true
      endCommand
      add s (.jump c name)
    else if c = 'q' ∨ c = 'Q' then
      let _ ← takeWhile isBlank
      let status := (← number).getD 0
      endCommand
      add s (.quit (c == 'q') status)
    else if c = 'l' ∨ c = 'L' then
      let _ ← takeWhile isBlank
      let width ← number
      endCommand
      add s (.list width)
    else if "=dDFgGhHnNpPxz".toList.contains c then
      endCommand
      add s (.plain c)
    else fail s!"unknown command: \x60{c}'"

/-- Reads the commands of a piece. -/
def commands : Nat → Read Unit
  | 0 => return
  | fuel + 1 => do
    let _ ← takeWhile fun c => c == ';' || isSpace c
    match ← next? with
    | none => return
    | c =>
      let (s, c) ← selection c
      command s c
      commands fuel

/-- Adds a piece to a script. -/
def piece (source : Source) (chars : List Char) : Read Unit := do
  modify fun r => { r with rest := chars, position := 0, line := 1, source }
  if (← get).isPending then
    let (chars, goesOn) ← text
    modify fun r =>
      let place := r.script.instructions.size - 1
      let old := (r.script.instructions[place]?).getD default
      let action := match old.action with
        | .append before => .append (before ++ chars)
        | .insert before => .insert (before ++ chars)
        | .change before => .change (before ++ chars)
        | other => other
      { r with
        isPending := goesOn
        script := { r.script with
          instructions := r.script.instructions.setIfInBounds place { old with action } } }
  commands (chars.length + 1)
  modify fun r => { r with isFirst := false }

/-- The first label that is asked for and not there. -/
def missingLabel? (s : Script) : Option String :=
  s.instructions.toList.findSome? fun i =>
    match i.action with
    | .jump _ name => if name = "" || s.labels.any (·.1 == name) then none else some name
    | _ => none

/-- Reads a script from its pieces, or tells what is wrong and with which status that ends. -/
def readScript (extended : Bool) (pieces : List (Source × List Char)) : Except (String × Nat) Script := do
  let all : Read Unit := do
    for (source, chars) in pieces do
      piece source chars
    match (← get).blocks with
    | [] => return
    | (_, source, line) :: _ =>
      modify fun r => { r with position := 0, source, line }
      fail "unmatched \x60\x7b'"
  match all.run { extended } with
  | .error text => throw (text, 1)
  | .ok (_, r) =>
    match missingLabel? r.script with
    | some name => throw (s!"can't find label for jump to \x60{name}'", 4)
    | none => return r.script

end ScriptBundle.Shell.Tool.Sed
