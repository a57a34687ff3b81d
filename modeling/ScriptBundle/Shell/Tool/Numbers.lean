import ScriptBundle.Regex.Match
import ScriptBundle.Regex.Posix
import ScriptBundle.Shell.Format
import ScriptBundle.Shell.Tool.Basic

/-!
# Tools on numbers

`expr` works out an expression whose parts are arguments; a value is a text, and a number if it is
written like one. `seq` counts.
-/

namespace ScriptBundle.Shell.Tool

namespace Expr

/-- The whole number that a text is. -/
def integer? (text : String) : Option Int :=
  let chars := text.toList
  let digits := if chars.head? = some '-' then chars.tail else chars
  if digits.isEmpty || !digits.all Char.isDigit then none
  else
    let n : Int := (Arithmetic.numeral 10 digits).1
    some (if chars.head? = some '-' then -n else n)

/-- Whether a value counts as false: it is empty, or zero. -/
def isNull (text : String) : Bool :=
  let chars := text.toList
  let digits := if chars.head? = some '-' then chars.tail else chars
  text == "" || (!digits.isEmpty && digits.all (· == '0'))

/-- The arguments that are left, and the one before them. -/
structure Cursor where
  rest : List String
  before : String := ""

abbrev Calc := StateT Cursor (Except String)

def take : Calc String := do
  match (← get).rest with
  | [] =>
    let before := (← get).before
    throw s!"syntax error: missing argument after {Quoting.always before}"
  | arg :: rest =>
    set ({ rest, before := arg } : Cursor)
    return arg

/-- Takes the next argument if it is one of some signs. -/
def takeSign? (signs : List String) : Calc (Option String) := do
  match (← get).rest with
  | arg :: _ =>
    if signs.contains arg then
      let _ ← take
      return some arg
    else return none
  | [] => return none

/-- What an expression finds at the start of a text: its first group, or the number of octets. -/
def occurrence (text pattern : String) : Calc String := do
  let r ← match Regex.Posix.read { extended := false, lines := true } pattern.toList with
    | .ok r => pure r
    | .error message => throw message
  let chars : Regex.Text := text.toList.toArray
  match r.matchAt? chars 0 with
  | none => return if r.groups > 0 then "" else "0"
  | some found =>
    if r.groups > 0 then
      return ((found.groups.lookup 1).map fun e => String.ofList (chars.slice e)).getD ""
    else return toString found.whole.stop

def compare (sign a b : String) : Bool :=
  let order := match integer? a, integer? b with
    | some x, some y => Ord.compare x y
    | _, _ => compareOfLessAndEq a.toList b.toList
  match sign with
  | "<" => order == .lt
  | "<=" => order != .gt
  | "=" | "==" => order == .eq
  | "!=" => order != .eq
  | ">=" => order != .lt
  | _ => order == .gt

def calculate (sign a b : String) : Calc String :=
  match integer? a, integer? b with
  | some x, some y =>
    match sign with
    | "+" => return toString (x + y)
    | "-" => return toString (x - y)
    | "*" => return toString (x * y)
    | _ =>
      if y = 0 then throw "division by zero"
      else return toString (if sign = "/" then x.tdiv y else x.tmod y)
  | _, _ => throw "non-integer argument"

/-- The signs that join values, from the loosest on. -/
def levels : List (List String) :=
  [["|"], ["&"], ["<", "<=", "=", "==", "!=", ">=", ">"], ["+", "-"], ["*", "/", "%"], [":"]]

/-- Joins two values. -/
def combine (live : Bool) (sign a b : String) : Calc String :=
  match sign with
  | "|" => return if !isNull a then a else if !isNull b then b else "0"
  | "&" => return if isNull a || isNull b then "0" else a
  | _ =>
    if !live then return a
    else
      match sign with
      | ":" => occurrence a b
      | "+" | "-" | "*" | "/" | "%" => calculate sign a b
      | _ => return if compare sign a b then "1" else "0"

mutual

def value (live : Bool) (ls : List (List String)) : Nat → Calc String
  | 0 => return ""
  | fuel + 1 =>
    match ls with
    | [] => word live fuel
    | signs :: tighter => do
      let a ← value live tighter fuel
      more live signs tighter a fuel

def more (live : Bool) (signs : List String) (tighter : List (List String)) (a : String) :
    Nat → Calc String
  | 0 => return a
  | fuel + 1 => do
    match ← takeSign? signs with
    | none => return a
    | some sign =>
      let isLive := match sign with
        | "|" => live && isNull a
        | "&" => live && !isNull a
        | _ => live
      let b ← value isLive tighter fuel
      more live signs tighter (← combine live sign a b) fuel

/-- A value with a word in front of it, or a single one. -/
def word (live : Bool) : Nat → Calc String
  | 0 => return ""
  | fuel + 1 => do
    match ← takeSign? ["+", "length", "match", "index", "substr"] with
    | some "+" => take
    | some "length" => return toString (← word live fuel).length
    | some "match" =>
      let text ← word live fuel
      let pattern ← word live fuel
      if live then occurrence text pattern else return text
    | some "index" =>
      let text ← word live fuel
      let set ← word live fuel
      return toString (((text.toList.findIdx? set.toList.contains).map (· + 1)).getD 0)
    | some _ =>
      let text ← word live fuel
      let start ← word live fuel
      let count ← word live fuel
      match integer? start, integer? count with
      | some s, some n =>
        if s < 1 ∨ n < 1 then return ""
        else return String.ofList ((text.toList.drop (s.toNat - 1)).take n.toNat)
      | _, _ => return ""
    | none =>
      match ← take with
      | "(" =>
        let v ← value live levels fuel
        match (← get).rest with
        | [] =>
          let before := (← get).before
          throw s!"syntax error: expecting ')' after {Quoting.always before}"
        | next :: _ =>
          if next = ")" then
            let _ ← take
            return v
          else throw s!"syntax error: expecting ')' instead of {Quoting.always next}"
      | ")" => throw "syntax error: unexpected ')'"
      | arg => return arg

end

end Expr

def expr : Program := fun _ m args =>
  let args := if args.head? = some "--" then args.tail else args
  match args with
  | [] => m.noteUsage 2 "missing operand"
  | _ =>
    match (Expr.value true Expr.levels (20 * args.length + 20)).run { rest := args } with
    | .error message => m.noteFailure 2 message
    | .ok (value, ⟨next :: _, _⟩) =>
      let _ := value
      m.noteFailure 2 s!"syntax error: unexpected argument {Quoting.always next}"
    | .ok (value, ⟨[], _⟩) =>
      ((m.printText (value ++ "\n")).ends (if Expr.isNull value then 1 else 0)).finish 2

/-! ### Counting -/

/-- A number as it is written: its value in units of a power of ten, and the places behind its point. -/
structure Written where
  units : Int
  places : Nat
  width : Nat

namespace Written

def read? (text : String) : Option Written :=
  let trimmed := text.toList.dropWhile Arithmetic.isBlank
  let (negative, body) := match trimmed with
    | '-' :: rest => (true, rest)
    | '+' :: rest => (false, rest)
    | rest => (false, rest)
  let front := body.takeWhile Char.isDigit
  let (back, rest) := match body.drop front.length with
    | '.' :: more => (more.takeWhile Char.isDigit, more.dropWhile Char.isDigit)
    | rest => ([], rest)
  let (e, rest) : Int × List Char := match rest with
    | 'e' :: '-' :: more => (-((Arithmetic.numeral 10 more).1 : Int), more.dropWhile Char.isDigit)
    | 'e' :: '+' :: more => ((Arithmetic.numeral 10 more).1, more.dropWhile Char.isDigit)
    | 'e' :: more => ((Arithmetic.numeral 10 more).1, more.dropWhile Char.isDigit)
    | rest => (0, rest)
  if (front.isEmpty && back.isEmpty) || !rest.isEmpty || e.natAbs > 1000 then none
  else
    let n : Int := (Arithmetic.numeral 10 (front ++ back)).1
    let shift := e - back.length
    let units := if shift > 0 then n * Decimal.tenTo shift.toNat else n
    let places := (-shift).toNat
    let width := (if negative then 1 else 0) + max front.length 1 + (if back.isEmpty then 0 else back.length + 1)
    some ⟨if negative then -units else units, places, width⟩

/-- The value in units with more places. -/
def scaledTo (w : Written) (places : Nat) : Int := w.units * Decimal.tenTo (places - w.places)

end Written

/-- The numbers from one to another in steps. -/
def counted (step last : Int) : Nat → Int → List Int
  | 0, _ => []
  | fuel + 1, n =>
    if (step > 0 ∧ n > last) ∨ (step < 0 ∧ n < last) then [] else n :: counted step last fuel (n + step)

/-- A format for a number: what is before it, how it is written, and what is behind it. -/
def numberFormat (format : String) : Except String (Int → Nat → List Char) :=
  let chars := format.toList
  let rec literal : List Char → List Char × List Char
    | '%' :: '%' :: rest => let (a, b) := literal rest; ('%' :: a, b)
    | '%' :: rest => ([], '%' :: rest)
    | c :: rest => let (a, b) := literal rest; (c :: a, b)
    | [] => ([], [])
  let (front, rest) := literal chars
  match rest with
  | [] => .error s!"format {Quoting.always format} has no % directive"
  | _ :: rest =>
    let flags := rest.takeWhile "-+#0 '".toList.contains
    let rest := rest.drop flags.length
    let width := rest.takeWhile Char.isDigit
    let rest := rest.drop width.length
    let (precision, rest) : Option Nat × List Char := match rest with
      | '.' :: more =>
        let digits := more.takeWhile Char.isDigit
        (some (Arithmetic.numeral 10 digits).1, more.drop digits.length)
      | rest => (none, rest)
    match rest with
    | [] => .error s!"format {Quoting.always format} ends in %"
    | letter :: rest =>
      if !"aAeEfFgG".toList.contains letter then
        let directive := String.singleton letter
        .error s!"format {Quoting.always format} has unknown %{directive} directive"
      else
        let (back, more) := literal rest
        if !more.isEmpty then .error s!"format {Quoting.always format} has too many % directives"
        else
          let c : Conversion := ⟨flags, (Arithmetic.numeral 10 width).1, precision⟩
          .ok fun n places =>
            front ++ c.real letter (.finite (n < 0) n.natAbs (Decimal.tenTo places)) ++ back

/-- A decimal number with a number of places, filled with zeros to a width. -/
def decimalText (width places : Nat) (n : Int) : List Char :=
  let c : Conversion := ⟨['0'], width, some places⟩
  c.real 'f' (.finite (n < 0) n.natAbs (Decimal.tenTo places))

/-- The most numbers that are counted. -/
def countLimit : Nat := 2000000

/-- Ends the options before a negative number, which is none. -/
def guarded (isNumber : String → Bool) : List String → List String
  | [] => []
  | [arg] => if arg.startsWith "-" && isNumber arg then ["--", arg] else [arg]
  | arg :: next :: rest =>
    if arg.startsWith "-" && isNumber arg then "--" :: arg :: next :: rest
    else if arg = "-s" ∨ arg = "-f" then arg :: next :: guarded isNumber rest
    else if arg.startsWith "-" && arg != "--" then arg :: guarded isNumber (next :: rest)
    else arg :: next :: rest

def seq : Program := fun exec m args =>
  let isNumber (arg : String) : Bool := (Written.read? arg).isSome
  let args := guarded isNumber args
  let known : Known := ⟨"f:s:w", [("format", 'f'), ("separator", 's'), ("equal-width", 'w')], true⟩
  make known 1 (fun o m =>
    match o.operands with
    | [] => m.noteUsage 1 "missing operand"
    | _ :: _ :: _ :: extra :: _ => m.noteUsage 1 s!"extra operand {Quoting.always extra}"
    | operands =>
      match operands.find? (!isNumber ·) with
      | some wrong => m.noteUsage 1 s!"invalid floating point argument: {Quoting.always wrong}"
      | none =>
        let numbers := operands.filterMap Written.read?
        let one : Written := ⟨1, 0, 1⟩
        let (first, step, last) := match numbers with
          | [last] => (one, one, last)
          | [first, last] => (first, one, last)
          | first :: step :: last :: _ => (first, step, last)
          | [] => (one, one, one)
        if step.units = 0 then
          let zero := operands.getD 1 ""
          m.noteUsage 1 s!"invalid Zero increment value: {Quoting.always zero}"
        else
          let places := max first.places step.places
          let all := max places last.places
          let numbers := counted (step.scaledTo all) (last.scaledTo all) countLimit (first.scaledTo all)
          let shrink (n : Int) : Int := n.tdiv (Decimal.tenTo (all - places))
          let firstWidth := first.width + (places - first.places) + (if first.places = 0 ∧ places > 0 then 1 else 0)
          let lastWidth := last.width + places - last.places
          let lastWidth := if last.places > 0 ∧ places = 0 then lastWidth - 1
            else if last.places = 0 ∧ places > 0 then lastWidth + 1
            else lastWidth
          let width := if o.has 'w' then max firstWidth lastWidth else 0
          let write : Except String (Int → List Char) := match o.value? 'f' with
            | none => .ok fun n => decimalText width places (shrink n)
            | some format => (numberFormat format).map fun write n => write n all
          match write with
          | .error text => m.noteFailure 1 text
          | .ok write =>
            let separator := ((o.value? 's').getD "\n").toList
            if numbers.isEmpty then m
            else m.print (separator.intercalate (numbers.map write) ++ ['\n'])) exec m args

/-! ### Factors -/

/-- The prime factors of a number from a trial divisor on. -/
def factorsFrom : Nat → Nat → Nat → List Nat
  | 0, _, n => [n]
  | fuel + 1, d, n =>
    if n < 2 then []
    else if n < d * d then [n]
    else if n % d = 0 then d :: factorsFrom fuel d (n / d)
    else factorsFrom fuel (d + 1) n

def factorLine (m : Machine) (text : String) : Machine :=
  match natural? (if text.startsWith "+" then (text.drop 1).toString else text) with
  | some n =>
    let parts := (factorsFrom 3000000 2 n).map fun p => s!" {p}"
    m.printText s!"{n}:{String.join parts}\n"
  | none => m.noteFailure 1 s!"{Quoting.always text} is not a valid positive integer"

def factor : Program :=
  make ⟨"", [], false⟩ 1 fun o m =>
    if !o.operands.isEmpty then o.operands.foldl factorLine m
    else
      let (text, m) := gather o m 1
      let words := (text.map fun c => if c = '\n' || c = '\t' then ' ' else c).splitOn ' '
      (words.filter fun (w : List Char) => !w.isEmpty).foldl (fun m w => factorLine m (String.ofList w)) m

end ScriptBundle.Shell.Tool
