import ScriptBundle.Shell.Command

/-!
# Arithmetic in a script

The value of an arithmetic expression over whole numbers of 64 bits, with the operators of the usual
precedence, a choice, and assignments. A part that does not decide the value is read but not carried
out: it assigns nothing and may divide by zero.
-/

namespace ScriptBundle.Shell.Arithmetic

/-- The number of 64 bits that a number wraps to. -/
def wrap (n : Int) : Int := n.bmod 18446744073709551616

def greatest : Int := 9223372036854775807

def digit? (base : Nat) (c : Char) : Option Nat :=
  let value :=
    if c.isDigit then c.toNat - '0'.toNat
    else if c.isAlpha then c.toLower.toNat - 'a'.toNat + 10
    else 99
  if value < base then some value else none

/-- The number that a text begins with in a base, and what follows it. -/
def numeral (base : Nat) (text : List Char) : Nat × List Char :=
  let digits := text.takeWhile fun c => (digit? base c).isSome
  (digits.foldl (fun n c => n * base + (digit? base c).getD 0) 0, text.drop digits.length)

/-- The number that a text begins with, in the base that its first characters say. -/
def literal (text : List Char) : Int × List Char :=
  let limited (r : Nat × List Char) : Int × List Char := (min (r.1 : Int) greatest, r.2)
  match text with
  | '0' :: x :: c :: rest =>
    if (x = 'x' ∨ x = 'X') ∧ (digit? 16 c).isSome then limited (numeral 16 (c :: rest))
    else limited (numeral 8 text)
  | '0' :: _ => limited (numeral 8 text)
  | _ => limited (numeral 10 text)

def isBlank (c : Char) : Bool := c == ' ' || ('\t' ≤ c && c ≤ '\r')

/-- The number that the value of a variable is; none if it is no number. -/
def valueOf? (text : String) : Option Int :=
  let trimmed := text.toList.dropWhile isBlank
  let (negative, digits) :=
    match trimmed with
    | '-' :: rest => (true, rest)
    | '+' :: rest => (false, rest)
    | rest => (false, rest)
  if digits.head?.any Char.isDigit then
    let (n, rest) := literal digits
    if rest.all isBlank then some (if negative then -n else n) else none
  else if trimmed.isEmpty then some 0
  else none

inductive Token where
  | number (value : Int)
  | name (text : String)
  | sign (text : String)
  | bad
  | finish
  deriving DecidableEq, Repr

/-- All signs; a sign that begins another one stands behind it. -/
def signs : List String :=
  ["<<=", ">>=", "==", "!=", "<=", ">=", "&&", "||", "<<", ">>", "+=", "-=", "*=", "/=", "%=", "&=",
    "^=", "|=", "<", ">", "+", "-", "*", "/", "%", "(", ")", "!", "~", "&", "^", "|", "?", ":", "="]

/-- The first token of a text and what follows it. -/
def token (text : List Char) : Token × List Char :=
  let text := text.dropWhile isBlank
  match text with
  | [] => (.finish, [])
  | c :: rest =>
    if c.isDigit then
      let (n, rest) := literal text
      (.number n, rest)
    else if isNameStart c then
      (.name (String.ofList (text.takeWhile isNameChar)), text.dropWhile isNameChar)
    else
      match signs.find? fun sign => sign.toList.isPrefixOf text with
      | some sign => (.sign sign, text.drop sign.length)
      | none => (.bad, rest)

structure State where
  next : Token
  rest : List Char
  /-- What was assigned, the last assignment first. -/
  assigned : List (String × Int) := []

abbrev Calc := StateT State (Except String)

/-- An error of the expression itself; it is named with the expression. -/
def fault (expression : List Char) (text : String) : Calc α :=
  throw s!"arithmetic expression: {text}: \"{String.ofList expression}\""

def advance : Calc Unit :=
  modify fun s =>
    let (next, rest) := token s.rest
    { s with next, rest }

def truth (b : Bool) : Int := if b then 1 else 0

/-- The binary signs of each level, the loosest first. -/
def levels : List (List String) :=
  [["|"], ["^"], ["&"], ["==", "!="], ["<", "<=", ">", ">="], ["<<", ">>"], ["+", "-"],
    ["*", "/", "%"]]

/-- A number as its 64 bits. -/
def bits (n : Int) : Nat := (n % 18446744073709551616).toNat

def ofBits (n : Nat) : Int := wrap n

def apply (expression : List Char) (sign : String) (a b : Int) : Calc Int :=
  match sign with
  | "==" => return truth (a == b)
  | "!=" => return truth (a != b)
  | "<" => return truth (a < b)
  | "<=" => return truth (a ≤ b)
  | ">" => return truth (a > b)
  | ">=" => return truth (a ≥ b)
  | "+" => return wrap (a + b)
  | "-" => return wrap (a - b)
  | "*" => return wrap (a * b)
  | "<<" => return wrap (a * (1 <<< (bits b % 64) : Nat))
  | ">>" => return a.fdiv (1 <<< (bits b % 64) : Nat)
  | "&" => return ofBits (bits a &&& bits b)
  | "^" => return ofBits (bits a ^^^ bits b)
  | "|" => return ofBits (bits a ||| bits b)
  | _ =>
    if b = 0 then fault expression "division by zero"
    else return wrap (if sign = "/" then a.tdiv b else a.tmod b)

/-- The value of a variable. -/
def valueOf (lookup : String → Option String) (name : String) : Calc Int := do
  match (← get).assigned.lookup name with
  | some n => return n
  | none =>
    let text := (lookup name).getD ""
    match valueOf? text with
    | some n => return n
    | none => throw s!"Illegal number: {text}"

def isAssignment (sign : String) : Bool :=
  ["=", "<<=", ">>=", "+=", "-=", "*=", "/=", "%=", "&=", "^=", "|="].contains sign

variable (expression : List Char) (lookup : String → Option String)

mutual

/-- An assignment, or a choice. `live` says whether it is carried out. -/
def assignment (live : Bool) : Nat → Calc Int
  | 0 => fault expression "expecting primary"
  | fuel + 1 => do
    let s ← get
    match s.next, token s.rest with
    | .name name, (.sign sign, _) =>
      if isAssignment sign then
        advance
        advance
        let value ← assignment live fuel
        if !live then return value
        else
          let value ←
            if sign = "=" then pure value
            else apply expression ((sign.dropEnd 1).toString) (← valueOf lookup name) value
          modify fun s => { s with assigned := (name, value) :: s.assigned }
          return value
      else choice live fuel
    | _, _ => choice live fuel

def choice (live : Bool) : Nat → Calc Int
  | 0 => fault expression "expecting primary"
  | fuel + 1 => do
    let a ← either live fuel
    if (← get).next = .sign "?" then
      advance
      let b ← assignment (live && a != 0) fuel
      if (← get).next ≠ .sign ":" then fault expression "expecting ':'"
      advance
      let c ← choice (live && a == 0) fuel
      return if a ≠ 0 then b else c
    else return a

def either (live : Bool) : Nat → Calc Int
  | 0 => fault expression "expecting primary"
  | fuel + 1 => do
    let a ← both live fuel
    if (← get).next = .sign "||" then
      advance
      let b ← either (live && a == 0) fuel
      return truth (a != 0 || b != 0)
    else return a

def both (live : Bool) : Nat → Calc Int
  | 0 => fault expression "expecting primary"
  | fuel + 1 => do
    let a ← binary live levels fuel
    if (← get).next = .sign "&&" then
      advance
      let b ← both (live && a != 0) fuel
      return truth (a != 0 && b != 0)
    else return a

/-- Operands with the signs of the first of some levels between them. -/
def binary (live : Bool) (ls : List (List String)) : Nat → Calc Int
  | 0 => fault expression "expecting primary"
  | fuel + 1 => do
    match ls with
    | [] => primary live fuel
    | signs :: tighter =>
      let a ← binary live tighter fuel
      more live signs tighter a fuel

/-- Goes on from left to right among the signs of one level. -/
def more (live : Bool) (signs : List String) (tighter : List (List String)) (a : Int) :
    Nat → Calc Int
  | 0 => return a
  | fuel + 1 => do
    match (← get).next with
    | .sign sign =>
      if signs.contains sign then
        advance
        let b ← binary live tighter fuel
        let value ← if live then apply expression sign a b else pure b
        more live signs tighter value fuel
      else return a
    | _ => return a

def primary (live : Bool) : Nat → Calc Int
  | 0 => fault expression "expecting primary"
  | fuel + 1 => do
    match (← get).next with
    | .number n =>
      advance
      return n
    | .name name =>
      advance
      if live then valueOf lookup name else return 0
    | .sign "(" =>
      advance
      let value ← assignment live fuel
      if (← get).next ≠ .sign ")" then fault expression "expecting ')'"
      advance
      return value
    | .sign "+" =>
      advance
      primary live fuel
    | .sign "-" =>
      advance
      return wrap (-(← primary live fuel))
    | .sign "!" =>
      advance
      return truth ((← primary live fuel) == 0)
    | .sign "~" =>
      advance
      return -(← primary live fuel) - 1
    | _ => fault expression "expecting primary"

end

/-- The value of an expression and what it assigns, or an error. -/
def evaluate : Except String (Int × List (String × Int)) := do
  let (next, rest) := token expression
  let whole : Calc Int := do
    let value ← assignment expression lookup true (16 * expression.length + 32)
    if (← get).next ≠ .finish then fault expression "expecting EOF"
    return value
  let (value, s) ← whole.run { next, rest }
  return (value, s.assigned.reverse)

end ScriptBundle.Shell.Arithmetic
