import ScriptBundle.Shell.Tool.Awk.Number

/-!
# The form of patterns and actions

A program is a list of rules: a pattern says for which records its action is carried out. Actions are
made of statements, statements of expressions.
-/

namespace ScriptBundle.Shell.Tool.Awk

/-- Where a record is read from. -/
inductive Source where
  | main
  | file
  | command
  deriving DecidableEq, Repr

inductive Expr where
  | num (n : Num)
  | str (s : String)
  | regex (text : String)
  | name (x : String)
  | field (e : Expr)
  | item (x : String) (keys : List Expr)
  /-- Stores a value, perhaps after an operation with the old one. -/
  | store (op : Option Char) (target value : Expr)
  | choice (c a b : Expr)
  | and (a b : Expr)
  | or (a b : Expr)
  | not (a : Expr)
  | neg (a : Expr)
  | plus (a : Expr)
  | arith (op : Char) (a b : Expr)
  | concat (a b : Expr)
  | compare (op : String) (a b : Expr)
  | isMatch (negated : Bool) (a b : Expr)
  | member (keys : List Expr) (x : String)
  /-- One more or one less; the value is the new one or the old one. -/
  | step (isNew up : Bool) (target : Expr)
  | call (f : String) (args : List Expr)
  | builtin (f : String) (args : List Expr)
  | getline (source : Source) (place target : Option Expr)
  | group (e : Expr)
  deriving Inhabited

/-- Where printed text goes: the output, a file, the end of a file, or a command. -/
inductive Outlet where
  | output
  | file (e : Expr)
  | append (e : Expr)
  | command (e : Expr)

inductive Stmt where
  | expr (e : Expr)
  | print (args : List Expr) (place : Outlet)
  | printf (args : List Expr) (place : Outlet)
  | ifThen (c : Expr) (a b : List Stmt)
  | whileDo (c : Expr) (body : List Stmt)
  | doWhile (body : List Stmt) (c : Expr)
  | forDo (start : List Stmt) (c : Option Expr) (next : List Stmt) (body : List Stmt)
  | forIn (x array : String) (body : List Stmt)
  | block (body : List Stmt)
  | next
  | nextFile
  | exit (e : Option Expr)
  | giveBack (e : Option Expr)
  | leave
  | again
  | delete (x : String) (keys : List Expr)
  | clear (x : String)

inductive Pattern where
  | always
  | holds (e : Expr)
  /-- From a record to another, with the number of the pattern. -/
  | range (number : Nat) (a b : Expr)

structure Rule where
  pattern : Pattern
  /-- No action prints the record. -/
  action : Option (List Stmt)

structure Function where
  name : String
  params : List String
  body : List Stmt

structure Script where
  first : List (List Stmt) := []
  rules : List Rule := []
  last : List (List Stmt) := []
  functions : List Function := []

/-! ### Words -/

inductive Token where
  | lineEnd
  | num (n : Num) (text : String)
  | str (s : String)
  | regex (text : String)
  /-- A name right before a parenthesis. -/
  | function (x : String)
  | name (x : String)
  | builtin (x : String)
  | word (x : String)
  | op (s : String)
  | done
  deriving DecidableEq, Repr, Inhabited

structure Located where
  token : Token
  line : Nat
  deriving Inhabited

def keywords : List String :=
  ["BEGIN", "END", "function", "if", "else", "while", "for", "do", "break", "continue", "next", "nextfile",
    "exit", "return", "delete", "in", "getline", "print", "printf"]

def builtins : List String :=
  ["length", "substr", "index", "split", "sub", "gsub", "match", "sprintf", "sin", "cos", "atan2", "exp",
    "log", "sqrt", "int", "rand", "srand", "tolower", "toupper", "system", "close", "fflush", "systime",
    "mktime", "strftime"]

/-- Operators, the longer ones first. -/
def operators : List String :=
  ["+=", "-=", "*=", "/=", "%=", "^=", "==", "<=", ">=", "!=", "!~", "&&", "||", "++", "--", ">>", "+", "-",
    "*", "/", "%", "^", "=", "<", ">", "!", "~", "?", ":", ",", ";", "(", ")", "[", "]", "\x7b", "\x7d", "$", "|"]

/-- Whether a slash behind a word divides; otherwise it begins an expression to be matched. -/
def Token.endsValue : Token → Bool
  | .num .. | .str _ | .name _ | .builtin _ | .regex _ => true
  | .op s => s == ")" || s == "]" || s == "$" || s == "++" || s == "--"
  | _ => false

/-- An octet by up to three octal digits. -/
def octalEscape (rest : List Char) : Option (Char × List Char) :=
  let digits := (rest.take 3).takeWhile fun c => '0' ≤ c && c ≤ '7'
  if digits.isEmpty then none
  else some (Char.ofNat ((Arithmetic.numeral 8 digits).1 % 256), rest.drop digits.length)

def plainEscape? : Char → Option Char
  | '"' => some '"'
  | '\\' => some '\\'
  | 'a' => some '\x07'
  | 'b' => some '\x08'
  | 't' => some '\t'
  | 'n' => some '\n'
  | 'v' => some '\x0b'
  | 'f' => some '\x0c'
  | 'r' => some '\r'
  | _ => none

/-- A text whose escapes are replaced. Unknown ones stay as they are. -/
def unescape : Nat → List Char → List Char
  | 0, text => text
  | fuel + 1, text =>
    match text with
    | '\\' :: 'x' :: c :: rest =>
      let digits := ((c :: rest).take 2).takeWhile fun c => (Arithmetic.digit? 16 c).isSome
      if digits.isEmpty then '\\' :: 'x' :: unescape fuel (c :: rest)
      else Char.ofNat (Arithmetic.numeral 16 digits).1 :: unescape fuel ((c :: rest).drop digits.length)
    | '\\' :: c :: rest =>
      match plainEscape? c with
      | some d => d :: unescape fuel rest
      | none =>
        match octalEscape (c :: rest) with
        | some (d, rest) => d :: unescape fuel rest
        | none => '\\' :: c :: unescape fuel rest
    | c :: rest => c :: unescape fuel rest
    | [] => []

def unescaped (text : List Char) : String := String.ofList (unescape (text.length + 1) text)

/-- The inside of a string up to its end, and what follows; none if the line ends first. A line feed
behind a backslash is left out. -/
def stringEnd : List Char → Option (List Char × List Char)
  | [] | '\n' :: _ => none
  | '"' :: rest => some ([], rest)
  | '\\' :: '\n' :: rest => stringEnd rest
  | '\\' :: c :: rest => (stringEnd rest).map fun (inner, after) => ('\\' :: c :: inner, after)
  | c :: rest => (stringEnd rest).map fun (inner, after) => (c :: inner, after)

/-- The inside of an expression to be matched up to its slash. A slash in brackets does not end it. -/
def regexEnd (inside : Bool) : List Char → Option (List Char × List Char)
  | [] | '\n' :: _ => none
  | '\\' :: '/' :: rest => (regexEnd inside rest).map fun (inner, after) => ('/' :: inner, after)
  | '\\' :: c :: rest => (regexEnd inside rest).map fun (inner, after) => ('\\' :: c :: inner, after)
  | '[' :: rest => (regexEnd true rest).map fun (inner, after) => ('[' :: inner, after)
  | ']' :: rest => (regexEnd false rest).map fun (inner, after) => (']' :: inner, after)
  | '/' :: rest =>
    if inside then (regexEnd inside rest).map fun (inner, after) => ('/' :: inner, after)
    else some ([], rest)
  | c :: rest => (regexEnd inside rest).map fun (inner, after) => (c :: inner, after)

def isNameStart (c : Char) : Bool := c.isAlpha || c == '_'

def isNameChar (c : Char) : Bool := c.isAlphanum || c == '_'

/-- Without blanks, comments, and line feeds behind a backslash; and how many lines were passed. -/
def skipBlanks : Nat → List Char → List Char × Nat
  | 0, text => (text, 0)
  | fuel + 1, text =>
    match text with
    | ' ' :: rest | '\t' :: rest | '\r' :: rest => skipBlanks fuel rest
    | '\\' :: '\n' :: rest =>
      let (rest, n) := skipBlanks fuel rest
      (rest, n + 1)
    | '\\' :: '\r' :: '\n' :: rest =>
      let (rest, n) := skipBlanks fuel rest
      (rest, n + 1)
    | '#' :: rest => skipBlanks fuel (rest.dropWhile (· ≠ '\n'))
    | text => (text, 0)

/-- A complaint about a program, with the line. -/
structure Complaint where
  line : Nat
  text : String
  /-- Whether it is about a character that no word begins with. -/
  isBrief : Bool := false

def Complaint.shown (c : Complaint) : String :=
  if c.isBrief then s!"{c.line}: {c.text}" else s!"line {c.line}: {c.text}"

def wordToken (text : String) (next : Option Char) : Token :=
  if keywords.contains text then .word text
  else if builtins.contains text then .builtin text
  else if next = some '(' then .function text
  else .name text

/-- The words of a program. -/
def tokens : Nat → Nat → Token → List Char → Except Complaint (List Located)
  | 0, line, _, _ => .ok [⟨.done, line⟩]
  | fuel + 1, line, last, text => do
    let (text, passed) := skipBlanks (text.length + 1) text
    let line := line + passed
    let go (t : Token) (rest : List Char) : Except Complaint (List Located) := do
      return ⟨t, line⟩ :: (← tokens fuel line t rest)
    match text with
    | [] => return [⟨.lineEnd, line⟩, ⟨.done, line + 1⟩]
    | '\n' :: rest => return ⟨.lineEnd, line⟩ :: (← tokens fuel (line + 1) .lineEnd rest)
    | '"' :: rest =>
      match stringEnd rest with
      | some (inner, rest) => go (.str (unescaped inner)) rest
      | none =>
        let shown := String.ofList (rest.take 10)
        throw { line, text := s!"runaway string constant \"{shown} ..." }
    | c :: rest =>
      if c = '/' ∧ !last.endsValue then
        match regexEnd false rest with
        | some (inner, rest) => go (.regex (String.ofList inner)) rest
        | none =>
          let shown := String.ofList (rest.take 10)
          throw { line, text := s!"runaway regular expression /{shown} ..." }
      else if c.isDigit ∨ (c = '.' ∧ rest.head?.any Char.isDigit) then
        match Amount.decimal? false text with
        | some (a, after) =>
          go (.num (Num.ofAmount a) (String.ofList (text.take (text.length - after.length)))) after
        | none => throw { line, text := "unexpected character" }
      else if isNameStart c then
        let word := text.takeWhile isNameChar
        let rest := text.drop word.length
        go (wordToken (String.ofList word) rest.head?) rest
      else
        match operators.find? fun s => s.toList.isPrefixOf text with
        | some s => go (.op s) (text.drop s.length)
        | none =>
          let shown := String.singleton c
          throw { line, text := s!"unexpected character '{shown}'", isBrief := true }

end ScriptBundle.Shell.Tool.Awk
