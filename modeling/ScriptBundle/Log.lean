import ScriptBundle.Regex.Meaning
import ScriptBundle.Terminal.Style
import ScriptBundle.Text.Blank

/-!
# Log records

A build reports what it does in records with a level and an origin. A filter decides which of them
are shown. It has directives, each of which lets the records of some origins through up to a level;
of the directives that fit an origin the most specific counts, and without one that fits the record
is not shown. A filter may also ask for an expression that the text of a record has to match.
-/

namespace ScriptBundle

inductive Level where
  | error
  | warn
  | info
  | debug
  | trace
  deriving DecidableEq, Repr

namespace Level

def rank : Level → Nat
  | .error => 1
  | .warn => 2
  | .info => 3
  | .debug => 4
  | .trace => 5

def name : Level → String
  | .error => "ERROR"
  | .warn => "WARN"
  | .info => "INFO"
  | .debug => "DEBUG"
  | .trace => "TRACE"

/-- The greatest rank that a level's name lets through, in any case; `off` lets nothing through. -/
def limit? (text : String) : Option Nat :=
  let text := text.map Char.toUpper
  if text = "OFF" then some 0
  else ([Level.error, .warn, .info, .debug, .trace].find? (·.name == text)).map rank

end Level

/-- The part of a build that a record comes from. -/
inductive Origin where
  | commandLine
  | config
  | bundle
  | compiler
  deriving DecidableEq, Repr

/-- The name by which a filter refers to an origin. -/
def Origin.target : Origin → String
  | .commandLine => "closure_minify::cli"
  | .config => "closure_minify::config"
  | .bundle => "closure_minify::pipeline"
  | .compiler => "closure_minify::compiler"

/-- How a level is shown. -/
def Level.styles : Level → List Terminal.Style
  | .error => [.bold, .red]
  | .warn => [.yellow]
  | .info => [.green]
  | .debug => [.blue]
  | .trace => [.cyan]

structure Record where
  level : Level
  origin : Origin
  text : String
  deriving DecidableEq, Repr

namespace Log

/-- Lets records through up to a rank: those whose target begins with `target`, or all. -/
structure Directive where
  target : Option String
  limit : Nat
  deriving DecidableEq, Repr

structure Filter where
  /-- The more specific a directive is, the later it stands. -/
  directives : List Directive
  text : Option Regex := none
  deriving DecidableEq, Repr

def trim (text : List Char) : List Char :=
  ((text.dropWhile isBlank).reverse.dropWhile isBlank).reverse

def quoted (text : List Char) : String := "'" ++ String.ofList text ++ "'"

/-- Reads one directive: a level, a target, or both around an equals sign. -/
def directive (text : List Char) : Except String Directive :=
  let refuse (part : List Char) := Except.error ("invalid logging spec " ++ quoted part)
  match text.splitOn '=' with
  | [only] =>
    match Level.limit? (String.ofList only) with
    | some limit => .ok ⟨none, limit⟩
    | none => .ok ⟨some (String.ofList only), Level.trace.rank⟩
  | [target, level] =>
    let target := String.ofList target
    match trim level with
    | [] => .ok ⟨some target, Level.trace.rank⟩
    | level =>
      match Level.limit? (String.ofList level) with
      | some limit => .ok ⟨some target, limit⟩
      | none => refuse level
  | _ => refuse text

/-- Adds a directive. It takes the place of an earlier one for the same target. -/
def addDirective (ds : List Directive) (d : Directive) : List Directive :=
  if ds.any (·.target == d.target) then ds.map fun e => if e.target == d.target then d else e
  else ds ++ [d]

def Directive.size (d : Directive) : Nat := (d.target.map String.utf8ByteSize).getD 0

/-- The filter of some directives. Without any only errors are shown. -/
def Filter.ofDirectives (ds : List Directive) (text : Option Regex) : Filter :=
  match ds.foldl addDirective [] with
  | [] => ⟨[⟨none, Level.error.rank⟩], text⟩
  | ds => ⟨ds.mergeSort fun a b => a.size ≤ b.size, text⟩

/-- Splits results into what is wrong and what is right. -/
def partition : List (Except String α) → List String × List α
  | [] => ([], [])
  | .error e :: rest => let (bad, good) := partition rest; (e :: bad, good)
  | .ok a :: rest => let (bad, good) := partition rest; (bad, a :: good)

/-- Reads a filter: directives with commas between them, and an expression after a slash. What cannot
be read is left out and told about. -/
def Filter.read (text : String) : Filter × List String :=
  let directives (part : List Char) :=
    partition ((((part.splitOn ',').map trim).filter (!·.isEmpty)).map directive)
  match text.toList.splitOn '/' with
  | [part] =>
    let (bad, good) := directives part
    (ofDirectives good none, bad)
  | [part, expression] =>
    let (bad, good) := directives part
    match Regex.read (String.ofList expression) with
    | .ok r => (ofDirectives good (some r), bad)
    | .error e => (ofDirectives good none, bad ++ ["invalid regex filter - " ++ e])
  | _ =>
    (ofDirectives [] none, ["invalid logging spec " ++ quoted text.toList ++ " (too many '/'s)"])

/-- The last directive that fits a target. -/
def Filter.governing? (f : Filter) (target : String) : Option Directive :=
  f.directives.reverse.find? fun d => d.target.all fun t => t.toList.isPrefixOf target.toList

def Filter.shows (f : Filter) (r : Record) : Bool :=
  (f.governing? r.origin.target).any (fun d => r.level.rank ≤ d.limit) &&
    f.text.all (·.occursIn r.text.toList)

/-- What is told about a part of a filter that cannot be read. -/
def warning (text : String) : String := s!"warning: {text}, ignoring it\n"

/-- A record as a line. Further lines of its text are set in. -/
def line (styling : Terminal.Styling) (r : Record) : String :=
  let level := r.level.name ++ String.ofList (List.replicate (5 - r.level.name.length) ' ')
  let indented := r.text.toList.flatMap fun c => if c = '\n' then ['\n', ' ', ' ', ' ', ' '] else [c]
  let head :=
    styling.apply [.grey] "[" ++ styling.apply r.level.styles level ++ styling.apply [.grey] "]"
  styling.release (head ++ " " ++ String.ofList indented ++ "\n")

/-- The lines of the records that the filter shows. -/
def render (f : Filter) (styling : Terminal.Styling) (records : List Record) : String :=
  String.join ((records.filter f.shows).map (line styling))

end Log
end ScriptBundle
