import ScriptBundle.CommandLine.Option

/-!
# Reading the command line

The arguments are read from left to right. An option waits for its value until the next argument
that can be one; what follows in its place decides how the wait ends, and a repeated option is
noticed when its value is put in its place, which is when the next option or bare argument comes or
the line ends. After two dashes everything is a bare argument.
-/

namespace ScriptBundle.CommandLine

/-- A label as it was given, bare or with its option. -/
inductive LabelArgument where
  | bare (text : String)
  | option (text : String)
  deriving DecidableEq, Repr

def LabelArgument.text : LabelArgument → String
  | .bare text | .option text => text

/-- An accepted command line. -/
structure Arguments where
  /-- Bare arguments and label options, in the order of the line. -/
  labels : List LabelArgument := []
  sources : List String := []
  options : List String := []
  output : Option String := none
  header : Option String := none
  footer : Option String := none
  launcher : Option String := none
  compilerJar : Option String := none
  flags : List Flag := []
  deriving DecidableEq, Repr

/-- Why a command line is not read to its end. -/
inductive Usage where
  | unknownArgument (text : String)
  | missingValue (wanting : Valued)
  | repeated (switch : Switch)
  | unexpectedValue (switch : Switch)
  | help
  | version
  deriving DecidableEq, Repr

namespace Arguments

def has (a : Arguments) (f : Flag) : Bool := a.flags.contains f

/-- The value of an option that is given at most once. -/
def single? (a : Arguments) : Valued → Option String
  | .output => a.output
  | .header => a.header
  | .footer => a.footer
  | .launcher => a.launcher
  | .compilerJar => a.compilerJar
  | .label | .source | .option => none

/-- Puts a value in its place. -/
def put (a : Arguments) (value : String) : Valued → Arguments
  | .label => { a with labels := a.labels ++ [.option value] }
  | .source => { a with sources := a.sources ++ [value] }
  | .option => { a with options := a.options ++ [value] }
  | .output => { a with output := some value }
  | .header => { a with header := some value }
  | .footer => { a with footer := some value }
  | .launcher => { a with launcher := some value }
  | .compilerJar => { a with compilerJar := some value }

def record (a : Arguments) (v : Valued) (value : String) : Except Usage Arguments :=
  if (a.single? v).isSome then .error (.repeated (.valued v)) else .ok (a.put value v)

def bare (a : Arguments) (text : String) : Arguments :=
  { a with labels := a.labels ++ [.bare text] }

end Arguments

/-- An option that is not finished. -/
inductive Waiting where
  | nothing
  | value (v : Valued)
  /-- The value is there but not in its place. -/
  | place (v : Valued) (value : String)
  deriving DecidableEq, Repr

structure Progress where
  arguments : Arguments := {}
  waiting : Waiting := .nothing
  /-- Whether two dashes came. -/
  bareOnly : Bool := false
  deriving DecidableEq, Repr

namespace Progress

/-- Ends the wait for a value. -/
def settle (p : Progress) : Except Usage Progress :=
  match p.waiting with
  | .nothing => .ok p
  | .value v => .error (.missingValue v)
  | .place v value => return { p with arguments := ← p.arguments.record v value, waiting := .nothing }

def bare (p : Progress) (text : String) : Except Usage Progress := do
  let p ← p.settle
  return { p with arguments := p.arguments.bare text }

/-- A switch without a value. -/
def switch (p : Progress) (s : Switch) : Except Usage Progress := do
  let p ← p.settle
  match s with
  | .help => .error .help
  | .version => .error .version
  | .valued v => .ok { p with waiting := .value v }
  | .flag f =>
    if p.arguments.has f then .error (.repeated s)
    else .ok { p with arguments := { p.arguments with flags := p.arguments.flags ++ [f] } }

/-- What follows two dashes: a name, and perhaps an equals sign and a value. -/
def long (p : Progress) (text : List Char) : Except Usage Progress := do
  let name := String.ofList (text.takeWhile (· ≠ '='))
  match Switch.ofName? name, text.dropWhile (· ≠ '=') with
  | none, _ => .error (.unknownArgument ("--" ++ name))
  | some s, [] => p.switch s
  | some (.valued v), _ :: value =>
    let p ← p.settle
    return { p with arguments := ← p.arguments.record v (String.ofList value) }
  | some s, _ :: _ => .error (.unexpectedValue s)

/-- What follows one dash: a run of short names. -/
def short (p : Progress) (text : List Char) : Except Usage Progress :=
  text.foldlM (fun p c =>
    match Switch.ofShort? c with
    | some s => p.switch s
    | none => .error (.unknownArgument (String.ofList ['-', c]))) p

/-- An argument that is neither an option nor two dashes. -/
def plain (p : Progress) (text : String) : Except Usage Progress :=
  match p.waiting with
  | .value v => .ok { p with waiting := .place v text }
  | _ => p.bare text

/-- Whether the next argument is a value, whatever it begins with. -/
def takesAnything (p : Progress) : Bool :=
  match p.waiting with
  | .value v => v.takesDashes
  | _ => false

def step (p : Progress) (argument : String) : Except Usage Progress :=
  if p.bareOnly then p.bare argument
  else if p.takesAnything then p.plain argument
  else
    match argument.toList with
    | ['-', '-'] => .ok { p with bareOnly := true }
    | '-' :: '-' :: text => p.long text
    | '-' :: c :: text => p.short (c :: text)
    | _ => p.plain argument

end Progress

/-- Reads a command line. -/
def Arguments.parse (line : List String) : Except Usage Arguments := do
  let p ← line.foldlM Progress.step {}
  return (← p.settle).arguments

end ScriptBundle.CommandLine
