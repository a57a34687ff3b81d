import ScriptBundle.Shell.Arithmetic
import ScriptBundle.Shell.Machine
import ScriptBundle.Shell.Wildcard

/-!
# Expansion of words

Before a command runs, its words become fields: parameters, outputs and expressions are replaced by
their values, what a value outside of quotes gives is split, and fields with wildcards become the
paths that they fit. How the commands of an output are run is left open here.

A word is first turned into bits: characters that know whether they are quoted and whether a field may
be split at them, and marks that end a field or make sure that there is one. An error in an expansion
ends the script; it shows in the machine's flow.
-/

namespace ScriptBundle.Shell

/-- Runs commands for their output. -/
abbrev Substitute := Command → Machine → List Char × Machine

namespace Expand

inductive Bit where
  | char (c : Char) (quoted splits : Bool)
  /-- A field ends here. -/
  | stop
  /-- There is a field here, even if it is empty. -/
  | here
  deriving DecidableEq, Repr

def Bit.char? : Bit → Option Char
  | .char c _ _ => some c
  | _ => none

/-- The characters of a value. -/
def bits (quoted : Bool) (text : List Char) : List Bit := text.map fun c => .char c quoted (!quoted)

def separators (m : Machine) : List Char := ((m.get? "IFS").getD " \t\n").toList

/-- Bits as one text; fields are joined by the first separator. -/
def joined (m : Machine) (bs : List Bit) : List Char :=
  bs.flatMap fun
    | .char c _ _ => [c]
    | .stop => (separators m).take 1
    | .here => []

/-- All arguments, each a field of its own. -/
def allArguments (quoted : Bool) : List String → List Bit
  | [] => []
  | [last] => field last
  | arg :: rest => field arg ++ .stop :: allArguments quoted rest
where
  field (arg : String) : List Bit :=
    (if quoted then [.here] else []) ++ bits quoted arg.toList

/-- The home directory that a tilde at the start of a text stands for, and what follows it. -/
def home? (m : Machine) (text : List Char) (ends : Char → Bool) : Option (List Char × List Char) :=
  match text with
  | '~' :: rest =>
    let user := rest.takeWhile (!ends ·)
    let after := rest.drop user.length
    if user = [] then (m.get? "HOME").map fun home => (home.toList, after)
    else if user = "root".toList then some ("/root".toList, after)
    else none
  | _ => none

/-- Text outside of quotes; in an assignment a tilde may also follow a colon. What follows a tilde must
end in the text, unless the word ends with it. -/
def tildes (m : Machine) (inAssignment followed : Bool) (literal : List Char → List Bit) :
    Nat → Bool → List Char → List Bit
  | 0, _, text => literal text
  | _, _, [] => []
  | fuel + 1, atStart, c :: rest =>
    let ends (d : Char) := d == '/' || (inAssignment && d == ':')
    match if atStart && (!followed || rest.any ends) then home? m (c :: rest) ends else none with
    | some (home, after) =>
      home.map (.char · true false) ++ tildes m inAssignment followed literal fuel false after
    | none =>
      literal [c] ++ tildes m inAssignment followed literal fuel (inAssignment && c == ':') rest

structure Context where
  /-- Whether text that stands in the script is split too. -/
  splits : Bool := false
  /-- Whether everything counts as quoted. -/
  quoted : Bool := false
  tilde : Bool := false
  inAssignment : Bool := false
  /-- Whether the word becomes one text, and all arguments do. -/
  isText : Bool := true

def signOf? : Bit → Option Sign
  | .char c quoted _ => some ⟨c, quoted⟩
  | _ => none

/-- Why a parameter is not set is told in a word, or else by a usual text. -/
def refuse (m : Machine) (name : String) (orEmpty : Bool) (text : Option (List Char)) : Machine :=
  let usual := if orEmpty then "parameter not set or null" else "parameter not set"
  m.fail s!"{name}: {(text.map String.ofList).getD usual}"

/-- Sets a variable in an expansion. -/
def assignTo (m : Machine) (name : String) (value : List Char) : Machine :=
  if !isName name then m.fail s!"{name}: bad variable name"
  else if m.isReadOnly name then m.fail s!"{name}: is read only"
  else m.assign name (String.ofList value)

/-- The value of a parameter, as bits; none if it is not set. All arguments together are always set, and
are one text if a text is wanted. -/
def valueOf? (m : Machine) (name : String) (quoted isText : Bool) : Option (List Bit) :=
  if name = "@" ∨ (name = "*" ∧ !quoted) then
    let bs := allArguments quoted m.arguments
    some (if isText then bits quoted (joined m bs) else bs)
  else if name = "*" then
    some (.here :: bits true (joined m (allArguments true m.arguments)))
  else (m.parameter? name).map fun text => bits quoted text.toList

/-- The fields that a value is made of. -/
def partsOf (bs : List Bit) : List (List Char) :=
  (bs.splitOn .stop).map (·.filterMap Bit.char?)

/-- Fields without what fits a pattern at the start of the first, or at the end of the last field in
which something fits; the fields behind it go too. The longest start of all is looked for only in the
first field. -/
def trimParts (ws : List Wildcard) (atStart longest : Bool) : List (List Char) → List (List Char)
  | [] => []
  | [text] => [if atStart then Wildcard.trimStart ws longest text else Wildcard.trimEnd ws longest text]
  | first :: rest =>
    if atStart then
      if longest && Wildcard.accepts ws first then [[]]
      else Wildcard.trimStart ws longest first :: rest
    else if longest then
      if Wildcard.fitsEnd ws first then [Wildcard.trimEnd ws true first]
      else first :: rest
    else
      match rest.reverse.findIdx? (Wildcard.fitsEnd ws) with
      | some i =>
        let kept := rest.take (rest.length - i)
        first :: kept.dropLast ++ [Wildcard.trimEnd ws false (kept.getLastD [])]
      | none =>
        if Wildcard.fitsEnd ws first then [Wildcard.trimEnd ws false first]
        else first :: rest

mutual

def word (sub : Substitute) (c : Context) : Nat → List Piece → Machine → List Bit × Machine
  | 0, _, m => ([], m)
  | _, [], m => ([], m)
  | fuel + 1, p :: rest, m =>
    let skipsMark :=
      match p, rest with
      | .text [] true, .parameter "@" .value true :: _ => m.arguments.isEmpty
      | _, _ => false
    let (bs, m) := if skipsMark then ([], m) else piece sub c fuel (!rest.isEmpty) p m
    if m.isRunning then
      let (more, m) := word sub { c with tilde := false } fuel rest m
      (bs ++ more, m)
    else ([], m)

/-- What a piece gives, which may be followed by others. -/
def piece (sub : Substitute) (c : Context) : Nat → Bool → Piece → Machine → List Bit × Machine
  | 0, _, _, m => ([], m)
  | fuel + 1, followed, p, m =>
    let quoted := c.quoted || p.isQuoted
    match p with
    | .text chars true =>
      (if chars.isEmpty then [.here] else chars.map (.char · true false), m)
    | .text chars false =>
      let literal (cs : List Char) : List Bit := cs.map (.char · c.quoted c.splits)
      if c.tilde && !c.quoted then
        (tildes m c.inAssignment followed literal (chars.length + 1) true chars, m)
      else if c.inAssignment && !c.quoted then
        (tildes m true followed literal (chars.length + 1) false chars, m)
      else (literal chars, m)
    | .output body _ =>
      let (text, m) := sub body m
      (bits quoted text, m)
    | .arithmetic expression _ =>
      let (bs, m) := word sub { c with quoted := true, isText := true } fuel expression m
      if !m.isRunning then ([], m)
      else
        match Arithmetic.evaluate (joined m bs) (fun name => m.parameter? name) with
        | .ok (value, assigned) =>
          let m := assigned.foldl (fun m (name, n) =>
            if m.isRunning then assignTo m name (toString n).toList else m) m
          (bits quoted (toString value).toList, m)
        | .error text => ([], m.fail text)
    | .parameter name use _ => parameter sub { c with quoted, splits := true } fuel name use m

/-- What a use of a parameter gives. -/
def parameter (sub : Substitute) (c : Context) :
    Nat → String → ParameterUse → Machine → List Bit × Machine
  | 0, _, _, m => ([], m)
  | fuel + 1, name, use, m =>
    let value? := valueOf? m name c.quoted c.isText
    let strict (m : Machine) : Machine :=
      if value?.isNone && m.has 'u' && name ≠ "!" then
        refuse m name false none
      else m
    let value := value?.getD []
    let present (orEmpty : Bool) : Bool :=
      value?.any fun bs => !orEmpty || !(joined m bs).isEmpty
    let inner : Context := { c with tilde := true, inAssignment := false }
    match use with
    | .value => (value, strict m)
    | .size => (bits c.quoted (toString (joined m value).length).toList, strict m)
    | .orElse orEmpty w => if present orEmpty then (value, m) else word sub inner fuel w m
    | .ifSet orEmpty w => if present orEmpty then word sub inner fuel w m else ([], m)
    | .orAssign orEmpty w =>
      if present orEmpty then (value, m)
      else
        let (bs, m) := word sub { inner with isText := true } fuel w m
        if !m.isRunning then ([], m)
        else
          let text := joined m bs
          let m := assignTo m name text
          (bits c.quoted text, m)
    | .orFail orEmpty w =>
      if present orEmpty then (value, m)
      else
        let (bs, m) := word sub { inner with isText := true } fuel w m
        if !m.isRunning then ([], m)
        else ([], refuse m name orEmpty (if w.isEmpty then none else some (joined m bs)))
    | .trim atStart longest w =>
      let m := strict m
      if !m.isRunning then ([], m)
      else
        let (bs, m) := word sub { tilde := true } fuel w m
        let ws := Wildcard.read (bs.filterMap signOf?)
        let trimmed := trimParts ws atStart longest (partsOf value)
        (if value.isEmpty then [] else allArguments c.quoted (trimmed.map String.ofList), m)
    | .bad => ([], m.fail "Bad substitution")

end

/-- How deep the words within a word are followed. -/
def depth : Nat := 100000

/-- The value of a word as one text. -/
def text (sub : Substitute) (m : Machine) (w : Word) : List Char × Machine :=
  let (bs, m) := word sub { tilde := true } depth w m
  (joined m bs, m)

/-- The value of the word of an assignment. -/
def assigned (sub : Substitute) (m : Machine) (w : Word) : List Char × Machine :=
  let (bs, m) := word sub { tilde := true, inAssignment := true } depth w m
  (joined m bs, m)

/-- The text of a document, in which nothing outside of expansions counts as quoted or not. -/
def document (sub : Substitute) (m : Machine) (w : Word) : List Char × Machine :=
  let (bs, m) := word sub { quoted := true } depth w m
  (joined m bs, m)

/-- The wildcards of a word. -/
def pattern (sub : Substitute) (m : Machine) (w : Word) : List Wildcard × Machine :=
  let (bs, m) := word sub { tilde := true } depth w m
  (Wildcard.read (bs.filterMap signOf?), m)

/-- Fields on the way: the finished ones from the last to the first, and the present one, if there
is one, likewise. -/
structure Fields where
  finished : List (List Sign) := []
  present : Option (List Sign) := none
  /-- Whether blanks have just ended a field, so that a separator adds nothing. -/
  afterBlank : Bool := false

namespace Fields

def close (f : Fields) : Fields :=
  match f.present with
  | some signs => { finished := signs.reverse :: f.finished }
  | none => f

def add (separators : List Char) (f : Fields) : Bit → Fields
  | .here => { f with present := some (f.present.getD []), afterBlank := false }
  | .stop => { f.close with afterBlank := false }
  | .char c quoted splits =>
    if splits && separators.contains c then
      let isBlank := c == ' ' || c == '\t' || c == '\n'
      if f.present.isSome then { f.close with afterBlank := isBlank }
      else if isBlank then f
      else if f.afterBlank then { f with afterBlank := false }
      else { f with finished := [] :: f.finished }
    else { f with present := some (⟨c, quoted⟩ :: f.present.getD []), afterBlank := false }

end Fields

/-- The fields that bits make. -/
def fieldsOf (separators : List Char) (bs : List Bit) : List (List Sign) :=
  (bs.foldl (Fields.add separators) {}).close.finished.reverse

/-- The texts that a field stands for: the paths that it fits, or else itself. -/
def textsOf (m : Machine) (signs : List Sign) : List String :=
  match if m.has 'f' then [] else Wildcard.paths m.files signs with
  | [] => [String.ofList (signs.map (·.char))]
  | paths => paths

/-- The fields that a word gives. -/
def fields (sub : Substitute) (m : Machine) (w : Word) : List String × Machine :=
  let (bs, m) := word sub { tilde := true, isText := false } depth w m
  ((fieldsOf (separators m) bs).flatMap (textsOf m), m)

def allFields (sub : Substitute) : Machine → List Word → List String × Machine
  | m, [] => ([], m)
  | m, w :: rest =>
    let (texts, m) := fields sub m w
    if m.isRunning then
      let (more, m) := allFields sub m rest
      (texts ++ more, m)
    else ([], m)

end Expand
end ScriptBundle.Shell
