import ScriptBundle.Shell.Command

/-!
# Reading a script

A script is read one complete command at a time, so that a command runs before what follows it is
looked at. The reader goes over the characters with one token of look-ahead; a word is a reserved word
only where one may stand. The functions that call each other take fuel, and as much fuel as there are
characters, a few times over, is enough.
-/

namespace ScriptBundle.Shell.Reader

/-- What is wrong with a script, and the line that was reached. -/
structure Failure where
  line : Nat
  message : String
  deriving DecidableEq, Repr

inductive Token where
  | finish
  | newline
  | operator (text : String)
  | reserved (text : String)
  /-- A word, and its text if it is written plainly. -/
  | word (pieces : Word) (plain : Option String)
  | redirect (descriptor : Option Nat) (sign : String)

/-- How a token is called in a message. -/
def Token.name : Token → String
  | .finish => "end of file"
  | .newline => "newline"
  | .operator text | .reserved text => "\"" ++ text ++ "\""
  | .word .. => "word"
  | .redirect .. => "redirection"

/-- A document that a command has asked for and that begins after the line. -/
structure Wanted where
  number : Nat
  mark : List Char
  stripsTabs : Bool
  isPlain : Bool

structure Source where
  rest : List Char
  line : Nat := 1
  ahead : Option Token := none
  wanted : List Wanted := []
  /-- The document that is being read, if its text is not taken as it stands. -/
  present : Option Wanted := none
  /-- What follows the present document, once its end was reached. -/
  beyond : List Char := []
  documents : List (Nat × Word) := []
  nextDocument : Nat := 0
  aliases : List (String × String) := []
  /-- The aliases that are being read, and how much of the text lies behind each. -/
  active : List (String × Nat) := []
  /-- How much text lies behind each alias with a blank at its end: the word there may be an alias too. -/
  blankEnds : List Nat := []

abbrev Read := StateT Source (Except Failure)

def fail (message : String) : Read α := do
  throw { line := (← get).line, message := "Syntax error: " ++ message }

/-- A token that must not stand here, perhaps in place of another. -/
def unexpected (t : Token) (wanted : Option String := none) : Read α :=
  let expecting := (wanted.map fun w => s!" (expecting \"{w}\")").getD ""
  fail s!"{t.name} unexpected{expecting}"

def backquote : Char := Char.ofNat 96

def isSpecial (c : Char) : Bool := "@*#?$!-".toList.contains c

def endsWord (c : Char) : Bool := " \t\n;&|()<>".toList.contains c

/-- Takes characters and counts the lines in them. -/
def take (n : Nat) : Read Unit :=
  modify fun s => { s with rest := s.rest.drop n, line := s.line + (s.rest.take n).count '\n' }

/-- Takes characters that count as no line. -/
def drop (n : Nat) : Read Unit := modify fun s => { s with rest := s.rest.drop n }

/-- Goes past line feeds that a backslash hides. -/
def skipHidden : Nat → Read Unit
  | 0 => return
  | fuel + 1 => do
    match (← get).rest with
    | '\\' :: '\n' :: _ =>
      take 2
      skipHidden fuel
    | _ => return

/-! ### Building words -/

/-- The pieces of a word from the last to the first, and text that is not yet a piece. -/
structure Builder where
  pieces : List Piece := []
  run : List Char := []
  runQuoted : Bool := false

namespace Builder

def close (b : Builder) : Builder :=
  if b.run.isEmpty then b
  else { pieces := .text b.run.reverse b.runQuoted :: b.pieces }

def add (b : Builder) (quoted : Bool) (c : Char) : Builder :=
  if b.runQuoted == quoted then { b with run := c :: b.run }
  else { b.close with run := [c], runQuoted := quoted }

def addPiece (b : Builder) (p : Piece) : Builder :=
  let b := b.close
  { b with pieces := p :: b.pieces }

/-- Remembers that there were quotes, even with nothing in them. -/
def mark (b : Builder) : Builder := b.addPiece (.text [] true)

def word (b : Builder) : Word := b.close.pieces.reverse

end Builder

/-- The text of a word that is written plainly. -/
def plain? (w : Word) : Option String :=
  let chars? : Piece → Option (List Char)
    | .text chars false => some chars
    | _ => none
  (w.mapM chars?).map fun chars => String.ofList chars.flatten

/-- Where pieces are read. -/
inductive Place where
  | bare
  | quotes
  | apostrophes
  | document
  /-- In braces outside of quotes. -/
  | braces
  /-- In braces within quotes, and perhaps in quotes of their own. -/
  | quotedBraces (inside : Bool)
  /-- In an expression, within so many brackets. -/
  | expression (depth : Nat)
  deriving DecidableEq, Repr

def Place.isQuoted : Place → Bool
  | .bare | .braces => false
  | _ => true

/-- Whether a backslash in quotes hides a character. -/
def hides (p : Place) (c : Char) : Bool :=
  ['$', '\\', backquote].contains c || (c == '"' && p != .document) ||
    (c == '}' && p == .quotedBraces false)

/-- What a parameter in braces begins with: its name and whether its size is asked for. -/
def parameterHead (text : List Char) : Option (String × Bool) × List Char :=
  let named (isSize : Bool) (text : List Char) : Option (String × Bool) × List Char :=
    let test := if text.head?.any Char.isDigit then Char.isDigit else isNameChar
    (some (String.ofList (text.takeWhile test), isSize), text.dropWhile test)
  match text with
  | '#' :: c :: rest =>
    if isNameChar c then named true (c :: rest)
    else if c ≠ '}' ∧ rest.head? = some '}' then
      if isSpecial c then (some (String.singleton c, true), rest) else (none, c :: rest)
    else (some ("#", false), c :: rest)
  | c :: rest =>
    if isNameChar c then named false text
    else if isSpecial c then (some (String.singleton c, false), rest)
    else (none, text)
  | [] => (none, [])

def bracesIn (quoted : Bool) : Place := if quoted then .quotedBraces false else .braces

/-- What follows the name of a parameter in braces: a use for a word, where the word is read, and
how many characters that took. -/
def useOf (quoted : Bool) (text : List Char) : (Word → ParameterUse) × Place × Nat :=
  let here := bracesIn quoted
  let use? (orEmpty : Bool) (c : Char) : Option (Word → ParameterUse) :=
    match c with
    | '-' => some (.orElse orEmpty)
    | '=' => some (.orAssign orEmpty)
    | '?' => some (.orFail orEmpty)
    | '+' => some (.ifSet orEmpty)
    | _ => none
  match text with
  | '%' :: '%' :: _ => (.trim false true, .braces, 2)
  | '%' :: _ => (.trim false false, .braces, 1)
  | '#' :: '#' :: _ => (.trim true true, .braces, 2)
  | '#' :: _ => (.trim true false, .braces, 1)
  | ':' :: c :: _ =>
    match use? true c with
    | some use => (use, here, 2)
    | none => (fun _ => .bad, here, 2)
  | c :: _ =>
    match use? false c with
    | some use => (use, here, 1)
    | none => (fun _ => .bad, here, 1)
  | [] => (fun _ => .bad, here, 0)

/-- The text in backquotes without the backslashes that belong to them, and what follows. -/
def backquoted (quoted : Bool) : List Char → Option (List Char × List Char)
  | [] => none
  | '\\' :: '\n' :: rest => backquoted quoted rest
  | '\\' :: c :: rest =>
    let kept := if ['\\', '$', backquote].contains c || (quoted && c == '"') then [c] else ['\\', c]
    (backquoted quoted rest).map fun (inside, after) => (kept ++ inside, after)
  | c :: rest =>
    if c = backquote then some ([], rest)
    else (backquoted quoted rest).map fun (inside, after) => (c :: inside, after)

/-- The lines of a text up to one that is the mark, and what follows that line. -/
def linesUpTo (mark : List Char) (stripsTabs : Bool) : Nat → List Char → List Char × List Char
  | 0, text => ([], text)
  | fuel + 1, text =>
    if text = [] then ([], [])
    else
      let first := text.takeWhile (· ≠ '\n')
      let feed := (text.drop first.length).take 1
      let rest := text.drop (first.length + 1)
      let line := if stripsTabs then first.dropWhile (· == '\t') else first
      if line = mark then ([], rest)
      else
        let (inside, after) := linesUpTo mark stripsTabs fuel rest
        (line ++ feed ++ inside, after)

def reservedWords : List String :=
  ["!", "case", "do", "done", "elif", "else", "esac", "fi", "for", "if", "in", "then", "until",
    "while", "\x7b", "\x7d"]

/-- Names that no function may take. -/
def specialNames : List String :=
  [".", ":", "break", "continue", "eval", "exec", "exit", "export", "readonly", "return", "set",
    "shift", "times", "trap", "unset"]

/-- Tokens that end a list of commands. -/
def Token.endsList : Token → Bool
  | .finish => true
  | .operator text => text == ")" || text == ";;"
  | .reserved text => ["do", "done", "elif", "else", "esac", "fi", "then", "\x7d"].contains text
  | _ => false

def Token.is (t : Token) (text : String) : Bool :=
  match t with
  | .operator s | .reserved s => s == text
  | _ => false

def push (t : Token) : Read Unit := modify fun s => { s with ahead := some t }

/-- The sign of a redirection at the start of a text, and its length. -/
def redirectSign? : List Char → Option (String × Nat)
  | '>' :: '>' :: _ => some (">>", 2)
  | '>' :: '&' :: _ => some (">&", 2)
  | '>' :: '|' :: _ => some (">|", 2)
  | '>' :: _ => some (">", 1)
  | '<' :: '<' :: '-' :: _ => some ("<<-", 3)
  | '<' :: '<' :: _ => some ("<<", 2)
  | '<' :: '&' :: _ => some ("<&", 2)
  | '<' :: '>' :: _ => some ("<>", 2)
  | '<' :: _ => some ("<", 1)
  | _ => none

/-- The name and the value of a word that is an assignment. -/
def assignment? (w : Word) : Option (String × Word) :=
  match w with
  | .text chars false :: rest =>
    let name := String.ofList (chars.takeWhile (· ≠ '='))
    match chars.dropWhile (· ≠ '=') with
    | _ :: value =>
      if isName name then some (name, if value.isEmpty then rest else .text value false :: rest)
      else none
    | [] => none
  | _ => none

def newDocument (mark : List Char) (stripsTabs isPlain : Bool) : Read Nat := do
  let number := (← get).nextDocument
  modify fun s => { s with
    nextDocument := number + 1
    wanted := s.wanted ++ [{ number, mark, stripsTabs, isPlain }] }
  return number

/-- The letters of a word without its quotes. -/
def letters (w : Word) : List Char :=
  w.flatMap fun
    | .text chars _ => chars
    | .parameter name _ _ => '$' :: name.toList
    | _ => []

/-- Puts the text of an alias in the place of its name, unless the name comes from that text. -/
def replaceAlias (name : String) : Read Bool := do
  let s ← get
  match s.aliases.lookup name with
  | none => return false
  | some text =>
    let behind := s.rest.length
    let active := s.active.filter (·.2 ≤ behind)
    if active.any (·.1 == name) then return false
    else
      let endsBlank := text.toList.getLast?.any fun c => c == ' ' || c == '\t'
      set { s with
        rest := text.toList ++ s.rest
        active := (name, behind) :: active
        blankEnds := if endsBlank then behind :: s.blankEnds else s.blankEnds }
      return true

/-- Whether the word that was just read stands behind an alias with a blank at its end. -/
def isBehindBlank : Read Bool := do
  let s ← get
  let ahead := s.blankEnds.filter (· ≤ s.rest.length)
  set { s with blankEnds := ahead }
  return ahead.length < s.blankEnds.length

/-- What a word may be besides a word. -/
inductive Possible where
  | word
  | replaced
  | reservedOrReplaced
  deriving DecidableEq, Repr

def kindOf (sign : String) : RedirectKind :=
  match sign with
  | ">" => .write
  | ">|" => .overwrite
  | ">>" => .append
  | "<" => .read
  | "<>" => .readWrite
  | "<<" | "<<-" => .document
  | _ => .copy

def seqOf (first : Option Command) (second : Command) : Command :=
  match first with
  | some c => .seq c second
  | none => second

/-- Reads something that is no part of the present document, though it stands in it. -/
def outsideDocument (r : Read α) : Read α := do
  let present := (← get).present
  modify fun s => { s with present := none }
  let a ← r
  modify fun s => { s with present }
  return a

/-- At the start of a line: if it is the last of the present document, the text ends here. -/
def endDocument : Read Unit := do
  let s ← get
  match s.present with
  | none => return
  | some w =>
    let rest := if w.stripsTabs then s.rest.dropWhile (· == '\t') else s.rest
    let first := rest.takeWhile (· ≠ '\n')
    if first = w.mark then
      set { s with rest := [], beyond := rest.drop (first.length + 1), line := s.line + 1 }
    else set { s with rest }

mutual

/-- Reads pieces up to the end of their place. -/
def pieces : Nat → Place → Builder → Read Builder
  | 0, _, b => return b
  | fuel + 1, place, b => do
    let quoted := place.isQuoted
    match (← get).rest with
    | [] =>
      match place with
      | .bare | .document => return b
      | .quotes | .apostrophes | .quotedBraces _ =>
        fail (if (← get).present.isSome then "Missing '\x7d'" else "Unterminated quoted string")
      | .braces => fail "Missing '\x7d'"
      | .expression _ => fail "Missing '))'"
    | c :: rest =>
      if place = .apostrophes then
        take 1
        if c = '\'' then return b
        else
          if c = '\n' then endDocument
          pieces fuel place (b.add true c)
      else if c = '\\' ∧ !rest.isEmpty then
        let hidden := rest.headD c
        take 2
        if hidden = '\n' then pieces fuel place b
        else if quoted && !hides place hidden then
          pieces fuel place ((b.add true '\\').add true hidden)
        else pieces fuel place (b.add true hidden)
      else if c = '$' then
        take 1
        skipHidden rest.length
        pieces fuel place (← dollar fuel quoted b)
      else if c = backquote then
        take 1
        pieces fuel place (b.addPiece (← oldOutput fuel quoted))
      else if c = '\n' then
        if place = .bare then return b
        else
          take 1
          endDocument
          pieces fuel place (b.add quoted c)
      else if place = .quotes ∧ c = '"' then
        take 1
        return b
      else if c = '}' ∧ (place = .quotedBraces false ∨ place = .braces) then
        take 1
        return b
      else if !quoted ∧ c = '"' then
        take 1
        pieces fuel place (← pieces fuel .quotes b.mark)
      else if !quoted ∧ c = '\'' then
        take 1
        pieces fuel place (← pieces fuel .apostrophes b.mark)
      else
        match place with
        | .quotedBraces inside =>
          take 1
          if c = '"' then pieces fuel (.quotedBraces !inside) b
          else pieces fuel place (b.add true c)
        | .bare =>
          if endsWord c then return b
          else
            take 1
            pieces fuel place (b.add false c)
        | .expression depth =>
          if c = '(' then
            take 1
            pieces fuel (.expression (depth + 1)) (b.add true c)
          else if c = ')' then
            if depth > 0 then
              take 1
              pieces fuel (.expression (depth - 1)) (b.add true c)
            else if rest.head? = some ')' then
              take 2
              return b
            else
              take 1
              pieces fuel place (b.add true c)
          else
            take 1
            pieces fuel place (b.add true c)
        | _ =>
          take 1
          pieces fuel place (b.add quoted c)

/-- What a dollar sign begins. -/
def dollar : Nat → Bool → Builder → Read Builder
  | 0, _, b => return b
  | fuel + 1, quoted, b => do
    match (← get).rest with
    | '(' :: '(' :: _ =>
      take 2
      let inside ← pieces fuel (.expression 0) {}
      return b.addPiece (.arithmetic inside.word quoted)
    | '(' :: _ =>
      take 1
      let body ← outsideDocument do
        let body ← list fuel true true
        let t ← next fuel true true
        unless t.is ")" do unexpected t (some ")")
        return body
      return b.addPiece (.output body quoted)
    | '{' :: rest =>
      take 1
      skipHidden rest.length
      return b.addPiece (← braced fuel quoted)
    | c :: rest =>
      if isNameStart c then
        let name := (c :: rest).takeWhile isNameChar
        take name.length
        return b.addPiece (.parameter (String.ofList name) .value quoted)
      else if c.isDigit || isSpecial c then
        take 1
        return b.addPiece (.parameter (String.singleton c) .value quoted)
      else return b.add quoted '$'
    | [] => return b.add quoted '$'

/-- A parameter in braces. -/
def braced : Nat → Bool → Read Piece
  | 0, quoted => return .text [] quoted
  | fuel + 1, quoted => do
    let (head, rest) := parameterHead (← get).rest
    drop ((← get).rest.length - rest.length)
    match head, rest with
    | some (name, isSize), '}' :: _ =>
      drop 1
      return .parameter name (if isSize then .size else .value) quoted
    | some (name, false), _ =>
      let (use, place, n) := useOf quoted rest
      drop n
      let inside ← pieces fuel place {}
      return .parameter name (use inside.word) quoted
    | _, _ =>
      let _ ← pieces fuel (bracesIn quoted) {}
      return .parameter "" .bad quoted

/-- The output of commands in backquotes. They are read as a script of their own. -/
def oldOutput : Nat → Bool → Read Piece
  | 0, quoted => return .text [] quoted
  | fuel + 1, quoted => do
    match backquoted quoted (← get).rest with
    | none =>
      take (← get).rest.length
      fail "EOF in backquote substitution"
    | some (inside, after) =>
      let outside ← get
      set { outside with rest := inside, line := 1, wanted := [], present := none }
      let body ← list fuel true true
      let inner ← get
      set { inner with
        rest := outside.rest
        line := outside.line
        ahead := none
        wanted := outside.wanted
        present := outside.present }
      take (outside.rest.length - after.length)
      return .output body quoted

/-- Reads the documents that are wanted, at the start of a line. -/
def readDocuments : Nat → List Wanted → Read Unit
  | 0, _ => return
  | _, [] => return
  | fuel + 1, w :: rest => do
    let s ← get
    let word ←
      if w.isPlain then do
        set { s with present := some w, beyond := [] }
        endDocument
        let b ← pieces fuel .document {}
        modify fun s => { s with rest := s.beyond, present := none, beyond := [] }
        pure b.word
      else do
        let (body, after) := linesUpTo w.mark w.stripsTabs (s.rest.length + 1) s.rest
        take (s.rest.length - after.length)
        pure [.text body true]
    modify fun s => { s with documents := (w.number, word) :: s.documents }
    readDocuments fuel rest

/-- The next token, without regard to what was put back. -/
def fresh : Nat → Read Token
  | 0 => return .finish
  | fuel + 1 => do
    match (← get).rest with
    | [] =>
      let wanted := (← get).wanted
      modify fun s => { s with wanted := [] }
      readDocuments fuel wanted
      return .finish
    | '\\' :: '\n' :: _ =>
      take 2
      fresh fuel
    | '#' :: rest =>
      take (1 + (rest.takeWhile (· ≠ '\n')).length)
      fresh fuel
    | '\n' :: _ =>
      take 1
      let wanted := (← get).wanted
      modify fun s => { s with wanted := [] }
      readDocuments fuel wanted
      return .newline
    | c :: rest =>
      let op (text : String) : Read Token := do
        take text.length
        return .operator text
      let starred (text : List Char) (digit : Option Nat) : Read (Option Token) := do
        match redirectSign? text with
        | some (sign, n) =>
          take (n + (if digit.isSome then 1 else 0))
          return some (.redirect digit sign)
        | none => return none
      if c = ' ' ∨ c = '\t' then
        take 1
        fresh fuel
      else
        match c, rest.head? with
        | '&', some '&' => op "&&"
        | '|', some '|' => op "||"
        | ';', some ';' => op ";;"
        | '&', _ | '|', _ | ';', _ | '(', _ | ')', _ => op (String.singleton c)
        | _, _ =>
          let sign ←
            if c.isDigit then starred rest (some (c.toNat - '0'.toNat)) else starred (c :: rest) none
          match sign with
          | some t => return t
          | none => do
            let b ← pieces fuel .bare {}
            let w := b.word
            return .word w (plain? w)

/-- The next token. Line feeds may be passed over, and reserved words and aliases recognized. -/
def nextAs : Nat → Bool → Possible → Read Token
  | 0, _, _ => return .finish
  | fuel + 1, skipsLines, possible => do
    let t ←
      match (← get).ahead with
      | some t =>
        modify fun s => { s with ahead := none }
        pure t
      | none => fresh fuel
    match t with
    | .newline => if skipsLines then nextAs fuel skipsLines possible else return t
    | .word _ plain =>
      let isBehind ← isBehindBlank
      match plain with
      | none => return t
      | some text =>
        if possible = .reservedOrReplaced ∧ reservedWords.contains text then return .reserved text
        else if possible ≠ .word ∨ isBehind then
          let isReplaced ← replaceAlias text
          if isReplaced then nextAs fuel skipsLines (if possible = .word then .replaced else possible)
          else return t
        else return t
    | t => return t

def next : Nat → Bool → Bool → Read Token
  | 0, _, _ => return .finish
  | fuel + 1, skipsLines, wantsReserved =>
    nextAs fuel skipsLines (if wantsReserved then .reservedOrReplaced else .word)

/-- A list of commands. At the top it ends with its line, elsewhere with a token that ends lists;
only where `mayBeEmpty` says so it may hold no command. -/
def list : Nat → Bool → Bool → Read Command
  | 0, _, _ => return .empty
  | fuel + 1, inside, mayBeEmpty => do
    let rec go : Nat → Bool → Option Command → Read Command
      | 0, _, done => return done.getD .empty
      | fuel + 1, mayEnd, done => do
        let t ← next fuel inside true
        match t with
        | .newline => return done.getD .empty
        | .finish =>
          push t
          return done.getD .empty
        | _ =>
          push t
          if inside && mayEnd && t.endsList then return done.getD .empty
          let line := (← get).line
          let c ← andOr fuel
          let t ← next fuel false false
          let c := if t.is "&" then .background line c else c
          let done := some (seqOf done c)
          match t with
          | .finish =>
            push t
            return done.getD .empty
          | .newline =>
            push t
            go fuel true done
          | .operator "&" | .operator ";" => go fuel true done
          | t =>
            unless inside do unexpected t
            push t
            return done.getD .empty
    go fuel mayBeEmpty none

def andOr : Nat → Read Command
  | 0 => return .empty
  | fuel + 1 => do
    let rec go : Nat → Command → Read Command
      | 0, c => return c
      | fuel + 1, c => do
        let t ← next fuel false false
        if t.is "&&" then
          let t ← next fuel true true
          push t
          go fuel (.both c (← pipeline fuel))
        else if t.is "||" then
          let t ← next fuel true true
          push t
          go fuel (.either c (← pipeline fuel))
        else
          push t
          return c
    go fuel (← pipeline fuel)

def pipeline : Nat → Read Command
  | 0 => return .empty
  | fuel + 1 => do
    let t ← next fuel false true
    let negated := t.is "!"
    if negated then push (← next fuel false true) else push t
    let rec go : Nat → List Command → Read (List Command)
      | 0, cs => return cs
      | fuel + 1, cs => do
        let t ← next fuel false false
        if t.is "|" then
          let t ← next fuel true true
          push t
          go fuel ((← command fuel) :: cs)
        else
          push t
          return cs
    let first ← command fuel
    let body ←
      match ← go fuel [first] with
      | [c] => pure c
      | cs => pure (.pipe cs.reverse)
    return if negated then .negate body else body

/-- The redirections that follow a compound command. -/
def redirects : Nat → List Redirect → Read (List Redirect)
  | 0, done => return done.reverse
  | fuel + 1, done => do
    let t ← next fuel false true
    match t with
    | .redirect descriptor sign =>
      let r ← redirect fuel descriptor sign
      redirects fuel (r :: done)
    | t =>
      push t
      return done.reverse

/-- The target of a redirection. -/
def redirect : Nat → Option Nat → String → Read Redirect
  | 0, _, _ => fail "redirection"
  | fuel + 1, descriptor, sign => do
    let t ← next fuel false false
    match t with
    | .word w plain =>
      let kind := kindOf sign
      let descriptor := descriptor.getD (if sign.startsWith "<" then 0 else 1)
      let number ←
        if kind = .document then
          newDocument (letters w) (sign == "<<-") plain.isSome
        else pure 0
      return .mk descriptor kind w number
    | t => unexpected t

def command : Nat → Read Command
  | 0 => return .empty
  | fuel + 1 => do
    let t ← next fuel false true
    let line := (← get).line
    let expect (text : String) (skips : Bool) : Read Unit := do
      let t ← next fuel skips true
      unless t.is text do unexpected t (some text)
    let closed (text : String) (c : Command) : Read Command := do
      expect text false
      match ← redirects fuel [] with
      | [] => return c
      | rs =>
        match c with
        | .subshell line body _ => return .subshell line body rs
        | c => return .redirected line c rs
    match t with
    | .reserved "if" =>
      let c ← branches fuel
      closed "fi" c
    | .reserved "while" | .reserved "until" =>
      let test ← list fuel true false
      expect "do" false
      let body ← list fuel true false
      closed "done" (.loop (t.is "while") test body)
    | .reserved "for" =>
      match ← next fuel false false with
      | .word _ (some name) =>
        unless isName name do fail "Bad for loop variable"
        let t ← next fuel true true
        let words ←
          if t.is "in" then forWords fuel []
          else do
            unless t.is ";" do push t
            pure [[.parameter "@" .value true]]
        expect "do" true
        let body ← list fuel true false
        closed "done" (.each line name words body)
      | _ => fail "Bad for loop variable"
    | .reserved "case" =>
      match ← next fuel false false with
      | .word subject _ =>
        expect "in" true
        let cs ← clauses fuel []
        match ← redirects fuel [] with
        | [] => return .choose line subject cs
        | rs => return .redirected line (.choose line subject cs) rs
      | t => fail s!"{t.name} unexpected (expecting word)"
    | .operator "(" =>
      let body ← list fuel true false
      closed ")" (.subshell line body [])
    | .reserved text =>
      if text = "\x7b" then
        let body ← list fuel true false
        closed "\x7d" body
      else unexpected t
    | .word .. | .redirect .. =>
      push t
      simple fuel line [] [] []
    | t => unexpected t

/-- The words of a for command. -/
def forWords : Nat → List Word → Read (List Word)
  | 0, done => return done.reverse
  | fuel + 1, done => do
    let t ← next fuel false false
    match t with
    | .word w _ => forWords fuel (w :: done)
    | .newline | .operator ";" => return done.reverse
    | t => unexpected t

/-- What follows `if` or `elif`. -/
def branches : Nat → Read Command
  | 0 => return .empty
  | fuel + 1 => do
    let test ← list fuel true false
    let t ← next fuel false true
    unless t.is "then" do unexpected t (some "then")
    let yes ← list fuel true false
    let t ← next fuel false true
    if t.is "elif" then return .branch test yes (← branches fuel)
    else if t.is "else" then return .branch test yes (← list fuel true false)
    else
      push t
      return .branch test yes .empty

/-- The clauses of a case command, with its end. -/
def clauses : Nat → List (List Word × Command) → Read (List (List Word × Command))
  | 0, done => return done.reverse
  | fuel + 1, done => do
    let t ← next fuel true true
    if t.is "esac" then return done.reverse
    else
      let t ← if t.is "(" then next fuel false false else pure t
      let (patterns, t) ← casePatterns fuel t []
      unless t.is ")" do unexpected t (some ")")
      let body ← list fuel true true
      let t ← next fuel true true
      let done := (patterns, body) :: done
      if t.is "esac" then return done.reverse
      else if t.is ";;" then clauses fuel done
      else unexpected t (some ";;")

/-- The patterns of a clause, given the first token, and the token behind them. -/
def casePatterns : Nat → Token → List Word → Read (List Word × Token)
  | 0, t, done => return (done.reverse, t)
  | fuel + 1, t, done => do
    let pattern : Word :=
      match t with
      | .word w _ => w
      | .reserved text | .operator text => [.text text.toList false]
      | _ => []
    let t ← next fuel false false
    if t.is "|" then
      casePatterns fuel (← next fuel false false) (pattern :: done)
    else return ((pattern :: done).reverse, t)

/-- A simple command, or the definition of a function. -/
def simple : Nat → Nat → List (String × Word) → List Word → List Redirect → Read Command
  | 0, _, _, _, _ => return .empty
  | fuel + 1, line, assigned, words, rs => do
    let done := Command.simple line assigned.reverse words.reverse rs.reverse
    let t ← nextAs fuel false (if words.isEmpty then .replaced else .word)
    match t with
    | .word w plain =>
      match words, assignment? w with
      | [], some a => simple fuel line (a :: assigned) words rs
      | _, _ =>
        match words, assigned, rs with
        | [], [], [] =>
          let t ← next fuel false false
          if t.is "(" then
            let t ← next fuel false false
            unless t.is ")" do unexpected t (some ")")
            let name := plain.getD ""
            unless isName name && !specialNames.contains name do fail "Bad function name"
            let t ← next fuel true true
            push t
            return .define name (← command fuel)
          else
            push t
            simple fuel line assigned (w :: words) rs
        | _, _, _ => simple fuel line assigned (w :: words) rs
    | .redirect descriptor sign =>
      let r ← redirect fuel descriptor sign
      simple fuel line assigned words (r :: rs)
    | t =>
      push t
      return done

end

/-- The word that a text is if it is read like a document, whose end no line of it can be. -/
def documentOf (text : List Char) : Except Failure Word := do
  let read := pieces (16 * text.length + 64) .document {}
  let (b, _) ← read.run { rest := text, present := some ⟨0, ['\n'], false, true⟩ }
  return b.word

/-- The next complete command of a source, and what is left of it; none at its end. -/
def complete (s : Source) : Except Failure (Option (Command × Source)) := do
  let read : Read (Option Command) := do
    let s ← get
    let added := s.aliases.foldl (fun n (_, text) => n + text.length + 8) 0
    let fuel := 16 * (s.rest.length + added) + 64
    let t ← next fuel false false
    match t with
    | .finish => return none
    | .newline => return some .empty
    | t =>
      push t
      return some (← list fuel false false)
  let (c, s) ← read.run s
  return c.map (·, s)

end ScriptBundle.Shell.Reader
