import ScriptBundle.Shell.Conversion

/-!
# Formatted output

The output of `echo` and `printf`. Both know the usual escapes; an octet may be given by up to three
octal digits. A format is used again while it leaves arguments.
-/

namespace ScriptBundle.Shell.Format

def isOctal (c : Char) : Bool := '0' ≤ c && c ≤ '7'

def octal (digits : List Char) : Char := Char.ofNat ((Arithmetic.numeral 8 digits).1 % 256)

def control? : Char → Option Char
  | 'a' => some (Char.ofNat 7)
  | 'b' => some (Char.ofNat 8)
  | 'e' => some (Char.ofNat 27)
  | 'f' => some (Char.ofNat 12)
  | 'n' => some '\n'
  | 'r' => some '\r'
  | 't' => some '\t'
  | 'v' => some (Char.ofNat 11)
  | '\\' => some '\\'
  | _ => none

/-- What an escape stands for, given the text behind its backslash, and what follows it. -/
def escape (text : List Char) : Char × List Char :=
  match text with
  | [] => ('\\', [])
  | c :: rest =>
    match control? c with
    | some d => (d, rest)
    | none =>
      let digits := (text.takeWhile isOctal).take 3
      if digits = [] then ('\\', text) else (octal digits, text.drop digits.length)

/-- A text with its escapes replaced, and whether it asks to stop. A zero may stand before octal
digits. -/
def unescape : Nat → List Char → List Char × Bool
  | 0, _ => ([], false)
  | fuel + 1, text =>
    match text with
    | [] => ([], false)
    | '\\' :: 'c' :: _ => ([], true)
    | '\\' :: '0' :: rest =>
      let digits := (rest.takeWhile isOctal).take 3
      let (more, stops) := unescape fuel (rest.drop digits.length)
      (octal digits :: more, stops)
    | '\\' :: rest =>
      let (c, rest) := escape rest
      let (more, stops) := unescape fuel rest
      (c :: more, stops)
    | c :: rest =>
      let (more, stops) := unescape fuel rest
      (c :: more, stops)

def unescaped (text : List Char) : List Char × Bool := unescape (text.length + 1) text

/-- What was printed, the arguments left, and what there is to complain about. -/
structure Output where
  out : List Char := []
  args : List String := []
  complaints : List String := []
  /-- An error that ends the printing. -/
  fault : Option String := none
  stops : Bool := false

namespace Output

def add (o : Output) (chars : List Char) : Output := { o with out := chars.reverse ++ o.out }

def goesOn (o : Output) : Bool := o.fault.isNone && !o.stops

/-- The next argument. -/
def next (o : Output) : Option String × Output := (o.args.head?, { o with args := o.args.tail })

def complain (o : Output) (text : String) : Output :=
  { o with complaints := o.complaints ++ [text] }

/-- Complains if an argument is not all a number. -/
def check (o : Output) (arg : String) (rest : List Char) (fits : Bool) : Output :=
  if rest = arg.toList ∧ rest ≠ [] then o.complain s!"{arg}: expected numeric value"
  else if rest ≠ [] then o.complain s!"{arg}: not completely converted"
  else if fits then o
  else o.complain s!"{arg}: Numerical result out of range"

/-- The number of an argument, and whether a sign stands before it. Without an argument it is zero. -/
def number (o : Output) (isSigned : Bool) : Int × Output :=
  match o.next with
  | (none, o) => (0, o)
  | (some arg, o) =>
    match arg.toList with
    | '"' :: rest | '\'' :: rest => (((rest.head?.map Char.toNat).getD 0 : Nat), o)
    | chars =>
      let trimmed := chars.dropWhile Arithmetic.isBlank
      let (negative, body) :=
        match trimmed with
        | '-' :: rest => (true, rest)
        | '+' :: rest => (false, rest)
        | rest => (false, rest)
      if body.head?.any Char.isDigit then
        let (base, digits) : Nat × List Char :=
          match body with
          | '0' :: x :: c :: rest =>
            if (x = 'x' ∨ x = 'X') ∧ (Arithmetic.digit? 16 c).isSome then (16, c :: rest) else (8, body)
          | '0' :: _ => (8, body)
          | _ => (10, body)
        let (n, rest) := Arithmetic.numeral base digits
        let signed : Int := if negative then -n else n
        let least : Int := if isSigned then -9223372036854775808 else -18446744073709551615
        let greatest : Int := if isSigned then 9223372036854775807 else 18446744073709551615
        let fits := least ≤ signed ∧ signed ≤ greatest
        let value := if fits then signed else if signed < 0 ∧ isSigned then least else greatest
        (value, o.check arg rest fits)
      else (0, o.check arg chars true)

/-- The number with a point of an argument. -/
def amount (o : Output) : Amount × Output :=
  match o.next with
  | (none, o) => (.finite false 0 1, o)
  | (some arg, o) =>
    match arg.toList with
    | '"' :: rest | '\'' :: rest => (.finite false ((rest.head?.map Char.toNat).getD 0) 1, o)
    | chars =>
      match Amount.read? chars with
      | none => (.finite false 0 1, o.check arg chars true)
      | some (a, rest) =>
        let isWritten := chars.any fun c => c == 'i' || c == 'I' || c == 'n' || c == 'N'
        let mantissa := chars.takeWhile fun c => c != 'e' && c != 'E'
        let fits := match a with
          | .infinite _ => isWritten
          | .finite _ 0 _ => mantissa.all fun c => !('1' ≤ c && c ≤ '9')
          | .finite _ num den => den ≤ num * Binary.twoTo 1022
          | .undefined => true
        (a, o.check arg rest fits)

end Output

/-- A number that stands in a format, or in an argument if there is a star. -/
def size (text : List Char) (o : Output) : Option Int × List Char × Output :=
  match text with
  | '*' :: rest =>
    let (n, o) := o.number true
    (some n, rest, o)
  | _ =>
    let digits := text.takeWhile Char.isDigit
    (if digits = [] then none else some (Arithmetic.numeral 10 digits).1, text.drop digits.length, o)

/-- What a conversion makes of the next argument. -/
def convert (c : Conversion) (letter : Char) (spelling : String) (o : Output) : Output :=
  match letter with
  | 's' =>
    let (arg, o) := o.next
    o.add (c.text ((arg.getD "").toList))
  | 'b' =>
    let (arg, o) := o.next
    let (chars, stops) := unescaped (arg.getD "").toList
    { o.add (c.text chars) with stops }
  | 'c' =>
    let (arg, o) := o.next
    o.add (c.fill false [] [((arg.getD "").toList.head?).getD (Char.ofNat 0)])
  | 'd' | 'i' =>
    let (n, o) := o.number true
    o.add (c.integer n)
  | 'u' | 'o' | 'x' | 'X' =>
    let (n, o) := o.number false
    o.add (c.natural letter (Arithmetic.bits n))
  | 'a' | 'A' | 'e' | 'E' | 'f' | 'F' | 'g' | 'G' =>
    let (a, o) := o.amount
    o.add (c.real letter a)
  | _ => { o with fault := some s!"{spelling}: invalid directive" }

/-- One pass over a format. -/
def pass : Nat → List Char → Output → Output
  | 0, _, o => o
  | fuel + 1, text, o =>
    match text with
    | [] => o
    | '\\' :: rest =>
      let (c, rest) := escape rest
      pass fuel rest (o.add [c])
    | '%' :: '%' :: rest => pass fuel rest (o.add ['%'])
    | '%' :: rest =>
      let flags := rest.takeWhile "#-+ 0".toList.contains
      let (width, after, o) := size (rest.drop flags.length) o
      let (precision, after, o) : Option Int × List Char × Output :=
        match after with
        | '.' :: more =>
          let (n, more, o) := size more o
          (some (n.getD 0), more, o)
        | after => (none, after, o)
      let width := width.getD 0
      let c : Conversion := {
        flags := if width < 0 then '-' :: flags else flags
        width := width.natAbs
        precision := precision.bind fun n => if n < 0 then none else some n.toNat }
      match after with
      | [] => { o with fault := some "missing format character" }
      | letter :: after =>
        let spelling := String.ofList (text.take (text.length - after.length))
        let o := convert c letter spelling o
        if o.goesOn then pass fuel after o else o
    | c :: rest => pass fuel rest (o.add [c])

/-- Passes over the format until no argument is left. -/
def passes : Nat → List Char → Output → Output
  | 0, _, o => o
  | fuel + 1, format, o =>
    let before := o.args.length
    let o := pass (format.length + 1) format o
    if o.goesOn && !o.args.isEmpty && o.args.length < before then passes fuel format o else o

def printf (format : String) (args : List String) : Output :=
  passes (args.length + 1) format.toList { args }

/-- The text that `echo` prints. -/
def echo (args : List String) : List Char :=
  match args with
  | "-n" :: args => (line args).1
  | args =>
    let (chars, stops) := line args
    if stops then chars else chars ++ ['\n']
where
  line (args : List String) : List Char × Bool :=
    unescaped (String.intercalate " " args).toList

end ScriptBundle.Shell.Format
