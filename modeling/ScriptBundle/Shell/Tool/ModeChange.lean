import ScriptBundle.Files.Mode

/-!
# Changes of modes

A change of a mode is written as a number, or as clauses that say whose permissions change, how, and
which. Where nobody is named all are meant, but the mask of the process holds. A number leaves the marks
of a directory that it does not name, unless it has five digits.
-/

namespace ScriptBundle.Shell.Tool

/-- Where the bits of a change come from. -/
inductive ModeSource where
  | written
  /-- From others of the same file. -/
  | copied
  /-- Execution is permitted if it is already to somebody, or if it is a directory. -/
  | ifExecutable
  deriving DecidableEq, Repr

structure ModeChange where
  sign : Char
  source : ModeSource
  /-- The bits of those who are named; none if nobody is. -/
  affected : Mode
  value : Mode
  /-- The bits that count as named. -/
  mentioned : Mode
  deriving DecidableEq, Repr

namespace ModeChange

def allBits : Mode := BitVec.allOnes 12

def isOctal (c : Char) : Bool := '0' ≤ c && c ≤ '7'

/-- A number of at most twelve bits, at the start of a text, and the rest. -/
def number? (text : List Char) : Option (Mode × List Char) :=
  let digits := text.takeWhile isOctal
  let value := digits.foldl (fun n c => n * 8 + (c.toNat - '0'.toNat)) 0
  if value < 4096 then some (BitVec.ofNat 12 value, text.drop digits.length) else none

def who? (c : Char) : Option Mode :=
  match c with
  | 'u' => some (Mode.owner ||| Mode.asOwner)
  | 'g' => some (Mode.group ||| Mode.asGroup)
  | 'o' => some (Mode.others ||| Mode.sticky)
  | 'a' => some allBits
  | _ => none

def copied? (c : Char) : Option Mode :=
  match c with
  | 'u' => some Mode.owner
  | 'g' => some Mode.group
  | 'o' => some Mode.others
  | _ => none

def what? (c : Char) : Option Mode :=
  match c with
  | 'r' => some Mode.reading
  | 'w' => some Mode.writing
  | 'x' => some Mode.executing
  | 'X' => some 0
  | 's' => some (Mode.asOwner ||| Mode.asGroup)
  | 't' => some Mode.sticky
  | _ => none

/-- The bits that letters at the start of a text stand for, and the letters. -/
def letters (meaning : Char → Option Mode) (text : List Char) : Mode × List Char :=
  let found := text.takeWhile fun c => (meaning c).isSome
  ((found.filterMap meaning).foldl (· ||| ·) 0, found)

/-- Reads what follows a sign: the change, and the rest. -/
def afterSign? (affected : Mode) (sign : Char) (text : List Char) : Option (ModeChange × List Char) :=
  match text with
  | [] => some (⟨sign, .written, affected, 0, 0⟩, [])
  | c :: rest =>
    if isOctal c then do
      let (value, rest) ← number? text
      if affected ≠ 0 ∨ rest.head?.any (· ≠ ',') then none
      else some (⟨sign, .written, allBits, value, allBits⟩, rest)
    else
      match copied? c with
      | some value =>
        some (⟨sign, .copied, affected, value, if affected = 0 then value else affected &&& value⟩,
          rest)
      | none =>
        let (value, found) := letters what? text
        let source : ModeSource := if found.contains 'X' then .ifExecutable else .written
        some (⟨sign, source, affected, value, if affected = 0 then value else affected &&& value⟩,
          text.drop found.length)

def isSign (c : Char) : Bool := c == '+' || c == '-' || c == '='

/-- Reads clauses; none if they make no sense. The fuel bounds the signs and the clauses. -/
def clauses? : Nat → Option Mode → List Char → Option (List ModeChange)
  | 0, _, _ => none
  | fuel + 1, none, text => do
    let (affected, found) := letters who? text
    let rest := text.drop found.length
    if rest.head?.any isSign then clauses? fuel (some affected) rest else none
  | fuel + 1, some affected, text =>
    match text with
    | [] => some []
    | ',' :: rest => clauses? fuel none rest
    | sign :: rest =>
      if !isSign sign then none
      else do
        let (change, rest) ← afterSign? affected sign rest
        return change :: (← clauses? fuel (some affected) rest)

/-- Reads a change of a mode. -/
def read? (text : List Char) : Option (List ModeChange) :=
  if text.head?.any isOctal then do
    let (value, rest) ← number? text
    let marks := Mode.asOwner ||| Mode.asGroup ||| Mode.sticky
    let mentioned := if text.length < 5 then (value &&& marks) ||| Mode.permissions else allBits
    if rest.isEmpty then some [⟨'=', .written, allBits, value, mentioned⟩] else none
  else clauses? (2 * text.length + 2) none text

def apply (isDirectory : Bool) (mask mode : Mode) (c : ModeChange) : Mode :=
  let marks := Mode.asOwner ||| Mode.asGroup
  let kept : Mode := if isDirectory then marks.without c.mentioned else 0
  let value :=
    match c.source with
    | .written => c.value
    | .copied => (c.value &&& mode).spread
    | .ifExecutable =>
      if isDirectory || mode.isExecutable then c.value ||| Mode.executing else c.value
  let value := (if c.affected = 0 then value.without mask else value &&& c.affected).without kept
  match c.sign with
  | '+' => mode ||| value
  | '-' => mode.without value
  | _ => (mode &&& ((if c.affected = 0 then 0 else ~~~c.affected) ||| kept)) ||| value

/-- A mode after changes. -/
def applyAll (isDirectory : Bool) (mask mode : Mode) (changes : List ModeChange) : Mode :=
  changes.foldl (apply isDirectory mask) mode

end ModeChange
end ScriptBundle.Shell.Tool
