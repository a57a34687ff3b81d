import Std.Data.HashMap
import ScriptBundle.Regex.Match
import ScriptBundle.Regex.Posix
import ScriptBundle.Shell.Tool.Basic
import ScriptBundle.Shell.Tool.Awk.Syntax

/-!
# The state of a program on records

Values are numbers, texts, or both: a text that was read and looks like a number counts as one. A
record is split into its fields when they are first needed, and put together again when a field was
changed. Tables are held apart from the variables, so that a function can fill one that it was given.
-/

namespace ScriptBundle.Shell.Tool.Awk

inductive Value where
  | unset
  | num (n : Num)
  | str (s : String)
  /-- A text that was read and is a number. -/
  | both (s : String) (n : Num)
  deriving Inhabited

/-- What a variable holds. -/
inductive Cell where
  | value (v : Value)
  | table (id : Nat)
  /-- Nothing yet; if it is used as a table, it is this one. -/
  | fresh (id : Nat)
  deriving Inhabited

/-- The items of a table, each with the time of its last use. -/
structure Table where
  items : Std.HashMap String (Value × Nat) := ∅
  /-- Whether all keys are whole numbers that came as numbers. -/
  isCounted : Bool := true
  deriving Inhabited

/-- Where named output goes. -/
inductive Sink where
  | handle (number : Nat)
  | errors
  | output
  /-- Text for the input of a command, the latest first. -/
  | command (text : List (List Char))

/-- Where records are read from by name: what is left, and the status if it is a command. -/
structure Feed where
  name : String
  isCommand : Bool
  left : List Char
  status : Nat := 0

inductive Halt where
  | next
  | nextFile
  | leave
  | again
  | giveBack (v : Value)
  | exit
  /-- The program cannot go on; the complaint was made. -/
  | broken

structure State where
  machine : Machine
  exec : Exec
  functions : List Function
  globals : Std.HashMap String Cell := ∅
  /-- The variables of the function that runs. -/
  frame : List (String × Cell) := []
  depth : Nat := 0
  tables : Std.HashMap Nat Table := ∅
  nextTable : Nat := 0
  clock : Nat := 0
  record : Value := .unset
  fields : Array Value := #[]
  isSplit : Bool := true
  isJoined : Bool := true
  /-- What is left of the file whose records are read, and the next argument. -/
  main : Option (List Char) := none
  argument : Nat := 1
  anyFile : Bool := false
  sinks : List (String × Sink) := []
  feeds : List Feed := []
  /-- The ranges that are open. -/
  ranges : List Nat := []
  regexes : Std.HashMap String Regex := ∅
  seed : Num := Num.zero
  draws : Nat := 0
  status : Nat := 0

abbrev Run := EStateM Halt State

/-! ### Values -/

namespace Value

def toNum : Value → Num
  | unset => Num.zero
  | num n => n
  | str s => Num.ofText s.toList
  | both _ n => n

/-- A number as a text: whole ones in full, others by a format. -/
def numText (format : String) (n : Num) : String :=
  match n with
  | .finite negative a d =>
    let limit := if negative then 9223372036854775808 else 18446744073709551616
    if a % d = 0 && a / d ≤ limit then toString (Num.signed negative (min (a / d) 18446744073709551615))
    else
      -- Only the usual forms of such formats occur.
      let chars := format.toList
      let letter := chars.getLast?.getD 'g'
      let digits := (chars.dropWhile (· ≠ '.')).drop 1 |>.takeWhile Char.isDigit
      let width := (chars.drop 1).takeWhile Char.isDigit
      let c : Conversion :=
        { precision := (String.ofList digits).toNat?, width := ((String.ofList width).toNat?).getD 0 }
      if "eEfFgG".toList.contains letter then String.ofList (n.shown c letter)
      else toString (Num.signed negative (a / d))
  | n => String.ofList (n.shown {} 'g')

def toStr (format : String) : Value → String
  | unset => ""
  | num n => numText format n
  | str s => s
  | both s _ => s

def isTrue : Value → Bool
  | unset => false
  | num n => !n.isZero
  | str s => !s.isEmpty
  | both _ n => !n.isZero

/-- A text that was read. -/
def ofInput (text : List Char) : Value :=
  let s := String.ofList text
  match Num.whole? text with
  | some n => both s n
  | none => str s

def ofBool (b : Bool) : Value := num (Num.ofBool b)

def ofNat (n : Nat) : Value := num (Num.ofNat n)

/-- The number, if a value counts as one in a comparison. -/
def counted? : Value → Option Num
  | unset => some Num.zero
  | num n => some n
  | both _ n => some n
  | str _ => none

end Value

/-! ### Expressions to match -/

/-- Characters that mean something outside brackets. -/
def isSpecial (c : Char) : Bool := ".[]*+?()|^$\\\x7b\x7d".toList.contains c

def literal (c : Char) : List Char := if isSpecial c then ['\\', c] else [c]

/-- What brackets hold: what can stand as it is, and which of three signs must stand apart. -/
structure Brackets where
  inner : List Char := []
  close : Bool := false
  caret : Bool := false
  dash : Bool := false

def Brackets.take (b : Brackets) (c : Char) : Brackets :=
  if c = ']' then { b with close := true }
  else if c = '^' then { b with caret := true }
  else if c = '-' then { b with dash := true }
  else { b with inner := b.inner ++ [c] }

def readBrackets : Nat → Bool → Brackets → List Char → Option (Brackets × List Char)
  | 0, _, _, _ => none
  | fuel + 1, isFirst, b, text =>
    match text with
    | [] => none
    | ']' :: rest => if isFirst then readBrackets fuel false { b with close := true } rest else some (b, rest)
    | '[' :: ':' :: rest =>
      let name := rest.takeWhile (· ≠ ':')
      match rest.drop name.length with
      | ':' :: ']' :: after =>
        readBrackets fuel false { b with inner := b.inner ++ '[' :: ':' :: name ++ [':', ']'] } after
      | _ => readBrackets fuel false { b with inner := b.inner ++ ['['] } (':' :: rest)
    | '\\' :: c :: rest =>
      match plainEscape? c with
      | some d => readBrackets fuel false (b.take d) rest
      | none =>
        match octalEscape (c :: rest) with
        | some (d, rest) => readBrackets fuel false (b.take d) rest
        | none => readBrackets fuel false (b.take c) rest
    | c :: rest => readBrackets fuel false { b with inner := b.inner ++ [c] } rest

def Brackets.text (b : Brackets) (negated : Bool) : List Char :=
  let front := if negated then ['[', '^'] else ['[']
  let body := (if b.close then [']'] else []) ++ b.inner ++ (if b.caret then ['^'] else [])
    ++ (if b.dash then ['-'] else [])
  if !negated && body.head? = some '^' then
    (if body.length = 1 then ['\\', '^'] else '[' :: body.drop 1 ++ ['^', ']'])
  else front ++ body ++ [']']

/-- The bounds of a repetition behind their opening brace, with the closing brace, and what
follows them. Other braces are plain characters. -/
def interval? (text : List Char) : Option (List Char × List Char) :=
  let least := text.takeWhile Char.isDigit
  let after := text.drop least.length
  let most := match after with
    | ',' :: more => ',' :: more.takeWhile Char.isDigit
    | _ => []
  match after.drop most.length with
  | '}' :: rest => if least.isEmpty && most.length < 2 then none else some (least ++ most ++ ['}'], rest)
  | _ => none

/-- An expression as it is read elsewhere: escapes are replaced, and braces that hold no bounds are
plain. -/
def plainRegex : Nat → List Char → List Char
  | 0, text => text
  | fuel + 1, text =>
    match text with
    | [] => []
    | '\\' :: c :: rest =>
      match plainEscape? c with
      | some d => literal d ++ plainRegex fuel rest
      | none =>
        match octalEscape (c :: rest) with
        | some (d, rest) => literal d ++ plainRegex fuel rest
        | none => literal c ++ plainRegex fuel rest
    | ['\\'] => ['\\', '\\']
    | '[' :: rest =>
      let (negated, inner) := match rest with
        | '^' :: inner => (true, inner)
        | inner => (false, inner)
      match readBrackets (inner.length + 1) true {} inner with
      | some (b, after) => b.text negated ++ plainRegex fuel after
      | none => '[' :: rest
    | '{' :: rest =>
      match interval? rest with
      | some (bounds, rest) => '{' :: bounds ++ plainRegex fuel rest
      | none => '\\' :: '{' :: plainRegex fuel rest
    | '}' :: rest => '\\' :: '}' :: plainRegex fuel rest
    | c :: rest => c :: plainRegex fuel rest

def readRegex (text : String) : Except String Regex :=
  let chars := text.toList
  Regex.Posix.read { extended := true, strict := true } (plainRegex (chars.length + 1) chars)

/-- How a text is split: at blanks, into single characters, at one character, or at matches. -/
inductive Splitter where
  | blanks
  | each
  | at (c : Char)
  | matches (r : Regex)

/-- The pieces between matches that are not empty. -/
def splitAtMatches (r : Regex) (text : Regex.Text) : Nat → Nat → Nat → List (List Char)
  | 0, start, _ => [text.slice ⟨start, text.size⟩]
  | fuel + 1, start, here =>
    match r.find? text here with
    | none => [text.slice ⟨start, text.size⟩]
    | some found =>
      let e := found.whole
      if e.stop > e.start then text.slice ⟨start, e.start⟩ :: splitAtMatches r text fuel e.stop e.stop
      else if e.start ≥ text.size then [text.slice ⟨start, text.size⟩]
      else splitAtMatches r text fuel start (e.start + 1)

/-- The words of a text between blanks and line ends. -/
def blankWords : Nat → List Char → List (List Char)
  | 0, _ => []
  | fuel + 1, text =>
    let isSpace (c : Char) : Bool := c == ' ' || c == '\t' || c == '\n'
    let text := text.dropWhile isSpace
    if text.isEmpty then []
    else
      let word := text.takeWhile fun c => !isSpace c
      word :: blankWords fuel (text.drop word.length)

def Splitter.split (s : Splitter) (text : List Char) : List (List Char) :=
  match s with
  | .blanks => blankWords (text.length + 1) text
  | .each => text.map fun c => [c]
  | .at c => if text.isEmpty then [] else text.splitOn c
  | .matches r => if text.isEmpty then [] else splitAtMatches r text.toArray (text.length + 1) 0 0

/-! ### The order of a table -/

/-- The number by which a key is put in its place. -/
def keyHash (key : String) : Nat :=
  (key.toList.foldl (fun (h : UInt32) c => (h ^^^ c.toNat.toUInt32) * 16777619) 2166136261).toNat

/-- The number of places in a table of some size. -/
def tablePlaces : Nat → Nat → Nat → Nat
  | 0, _, places => places
  | fuel + 1, size, places => if size > places * 12 then tablePlaces fuel size (places * 2) else places

/-- The keys in the order in which a loop takes them: by their places, and at one place the one that was
used last before the others. -/
def Table.keys (t : Table) : List String :=
  let places := tablePlaces 40 t.items.size 64
  let entries : List (String × Nat) := t.items.toList.map fun (key, _, time) => (key, time)
  let recent := entries.mergeSort fun a b => a.2 ≥ b.2
  -- Whole numbers are put in their places one after the other, each before those that are there.
  let lined :=
    if t.isCounted then
      let place (e : String × Nat) : Nat := (e.1.toInt?.getD 0 % places).toNat
      (recent.mergeSort fun a b => place a ≤ place b).reverse
    else recent
  (lined.mergeSort fun a b => keyHash a.1 % places ≤ keyHash b.1 % places).map (·.1)

end ScriptBundle.Shell.Tool.Awk
