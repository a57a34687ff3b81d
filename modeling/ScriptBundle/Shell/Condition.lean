import ScriptBundle.Shell.Machine
import ScriptBundle.Shell.Arithmetic

/-!
# Conditions

What `test` and `[` decide: conditions on files, texts and numbers, joined by `-a` and `-o`, negated,
and in brackets. Three or four arguments are first looked at as a whole, so that an operand may look
like an operator. A condition that makes no sense is an error, not a false one.
-/

namespace ScriptBundle.Shell.Condition

inductive Operator where
  | unary (letter : Char)
  | binary (sign : String)
  | negation
  | conjunction
  | disjunction
  | opening
  | closing
  deriving DecidableEq, Repr

def binarySigns : List String :=
  ["=", "!=", "<", ">", "-eq", "-ne", "-ge", "-gt", "-le", "-lt", "-nt", "-ot", "-ef"]

def unaryLetters : List Char := "rwxefdcbpugkstznhOGLS".toList

def operator? (text : String) : Option Operator :=
  match text with
  | "!" => some .negation
  | "-a" => some .conjunction
  | "-o" => some .disjunction
  | "(" => some .opening
  | ")" => some .closing
  | _ =>
    if binarySigns.contains text then some (.binary text)
    else
      match text.toList with
      | ['-', letter] => if unaryLetters.contains letter then some (.unary letter) else none
      | _ => none

/-- The number that an argument is. -/
def number (text : String) : Except String Int :=
  let fault : Except String Int := .error s!"Illegal number: {text}"
  let trimmed := text.toList.dropWhile Arithmetic.isBlank
  let (negative, digits) :=
    match trimmed with
    | '-' :: rest => (true, rest)
    | '+' :: rest => (false, rest)
    | rest => (false, rest)
  let run := digits.takeWhile Char.isDigit
  if run = [] ∨ !(digits.drop run.length).all Arithmetic.isBlank then fault
  else
    let n : Int := (Arithmetic.numeral 10 run).1
    let n := if negative then -n else n
    if -9223372036854775808 ≤ n ∧ n ≤ 9223372036854775807 then .ok n else fault

/-- What a path leads to, with the programs of the system. -/
def nodeOf? (m : Machine) (arg : String) : Option Node :=
  match m.files.find ⟨Octet.toText arg⟩ with
  | .ok node => some node
  | .error _ => if FileTree.isInstalled arg then some (.file [0] Mode.program) else none

def ofFile (m : Machine) (letter : Char) (arg : String) : Bool :=
  match nodeOf? m arg with
  | none => false
  | some node =>
    match letter, node with
    | 'f', .file .. => true
    | 's', .file content _ => !content.isEmpty
    | 'd', .directory _ | 's', .directory _ | 'x', .directory _ => true
    | 'x', node => node.isProgram
    | 'u', node => node.mode.hasAny Mode.asOwner
    | 'g', node => node.mode.hasAny Mode.asGroup
    | 'k', node => node.mode.hasAny Mode.sticky
    | 'c', .device .. => true
    | 'e', _ | 'r', _ | 'w', _ | 'O', _ | 'G', _ => true
    | _, _ => false

/-- How recently something was written: the lower the later. -/
def age? (m : Machine) (arg : String) : Option Nat :=
  match m.files.locate ⟨Octet.toText arg⟩ with
  | .ok key => m.files.entries.findIdx? fun e => e.1 == key
  | .error _ => none

def compare (m : Machine) (a sign b : String) : Except String Bool :=
  let numbers (f : Int → Int → Bool) : Except String Bool := do
    return f (← number a) (← number b)
  match sign with
  | "=" => .ok (a == b)
  | "!=" => .ok (a != b)
  | "<" => .ok (a < b)
  | ">" => .ok (a > b)
  | "-eq" => numbers (· == ·)
  | "-ne" => numbers (· != ·)
  | "-ge" => numbers (· ≥ ·)
  | "-gt" => numbers (· > ·)
  | "-le" => numbers (· ≤ ·)
  | "-lt" => numbers (· < ·)
  | "-nt" => .ok (((age? m a).bind fun i => (age? m b).map fun j => decide (i < j)).getD false)
  | "-ot" => .ok (((age? m a).bind fun i => (age? m b).map fun j => decide (j < i)).getD false)
  | _ =>
    .ok (match m.files.locate ⟨Octet.toText a⟩, m.files.locate ⟨Octet.toText b⟩ with
      | .ok key, .ok other =>
        (key == other || (m.otherKeys key).contains other) && (m.files.node? key).isSome
      | _, _ => false)

/-- The operator that arguments begin with, unless it is an operand here. -/
def first? (args : List String) : Option Operator :=
  match args with
  | [] => none
  | text :: rest =>
    match operator? text with
    | some (.unary letter) =>
      let isOperand :=
        match rest with
        | [] => true
        | [_] => false
        | next :: _ =>
          match operator? next with
          | some (.binary _) => true
          | _ => false
      if isOperand then none else some (.unary letter)
    | some .opening => if rest.isEmpty then none else some .opening
    | op => op

/-- What is wrong with an operator. -/
def refuse (op text : String) : Except String α :=
  .error (if op = "" then text else s!"{op}: {text}")

/-- A value, and the arguments from the last one that was used. -/
abbrev Step := Except String (Bool × List String)

mutual

def disjunction (m : Machine) : Nat → List String → Step
  | 0, args => .ok (false, args)
  | fuel + 1, args => do
    let (a, args) ← conjunction m fuel args
    match first? args.tail with
    | some .disjunction =>
      let (b, args) ← disjunction m fuel (args.drop 2)
      return (a || b, args)
    | _ => return (a, args)

def conjunction (m : Machine) : Nat → List String → Step
  | 0, args => .ok (false, args)
  | fuel + 1, args => do
    let (a, args) ← negation m fuel args
    match first? args.tail with
    | some .conjunction =>
      let (b, args) ← conjunction m fuel (args.drop 2)
      return (a && b, args)
    | _ => return (a, args)

def negation (m : Machine) : Nat → List String → Step
  | 0, args => .ok (false, args)
  | fuel + 1, args =>
    match first? args with
    | some .negation =>
      if args.length = 1 then .ok (true, args)
      else do
        let (a, args) ← negation m fuel args.tail
        return (!a, args)
    | _ => primary m fuel args

def primary (m : Machine) : Nat → List String → Step
  | 0, args => .ok (false, args)
  | fuel + 1, args =>
    match args, first? args with
    | [], _ => .ok (false, [])
    | _ :: rest, some .opening => do
      if first? rest = some .closing then return (false, rest)
      let (a, args) ← disjunction m fuel rest
      if first? args.tail = some .closing then return (a, args.tail)
      else throw "closing paren expected"
    | op :: rest, some (.unary letter) =>
      match rest with
      | [] => refuse op "argument expected"
      | arg :: _ =>
        match letter with
        | 'z' => return (arg == "", rest)
        | 'n' => return (arg != "", rest)
        | 't' => do
          let _ ← number arg
          return (false, rest)
        | _ => return (ofFile m letter arg, rest)
    | a :: rest, _ =>
      match first? rest, rest with
      | some (.binary sign), _ :: operands =>
        match operands with
        | [] => refuse sign "argument expected"
        | b :: _ => do return (← compare m a sign b, operands)
      | _, _ => return (a != "", args)

end

/-- The value of a condition that takes all arguments. -/
def whole (args : List String) (start : Nat → List String → Step) :
    Except String Bool := do
  let (value, rest) ← start (4 * args.length + 4) args
  match rest with
  | last :: _ :: _ => refuse last "unexpected operator"
  | _ => return value

/-- Whether arguments hold as a condition. -/
def holds (m : Machine) : Nat → List String → Except String Bool
  | 0, _ => .ok false
  | fuel + 1, args =>
    let isBinary : Bool :=
      match args with
      | [_, sign, _] => binarySigns.contains sign
      | _ => false
    let general := whole args (disjunction m)
    if args.isEmpty then .ok false
    else if isBinary then
      match args with
      | [a, sign, b] => compare m a sign b
      | _ => general
    else if args.length = 3 ∨ args.length = 4 then
      if args.head? = some "(" ∧ args.getLast? = some ")" then
        let inner := args.tail.dropLast
        whole inner (disjunction m)
      else if args.head? = some "!" then (holds m fuel args.tail).map not
      else general
    else general

end ScriptBundle.Shell.Condition
