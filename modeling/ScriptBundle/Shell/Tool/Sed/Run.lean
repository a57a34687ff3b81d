import ScriptBundle.Regex.Match
import ScriptBundle.Shell.Tool.Basic
import ScriptBundle.Shell.Tool.Sed.Script

/-!
# Editing streams

`sed` reads its input line by line. Each line is the text on which the commands of the script work;
then the text is printed, and what was put aside to follow it. A second text is kept from line to line.
-/

namespace ScriptBundle.Shell.Tool.Sed

/-- A text that is worked on. Its last line may have come without an end. -/
structure Space where
  text : List Char := []
  ended : Bool := true

/-- What follows a line. -/
inductive Following where
  | text (chars : List Char)
  | file (name : String)
  | line (chars : List Char)

/-- Where text is printed. -/
inductive Target where
  | main
  | output
  | errors
  | handle (number : Nat)
  deriving DecidableEq, BEq

/-- How a range stands. -/
inductive Reach where
  | outside
  /-- Up to a line, or up to a match. -/
  | inside (last : Option Nat)
  deriving DecidableEq

/-- The way a script is run. -/
structure Manner where
  quiet : Bool := false
  separate : Bool := false
  inPlace : Bool := false
  width : Nat := 70
  stop : Char := '\n'

structure State where
  machine : Machine
  space : Space := {}
  hold : Space := {}
  line : Nat := 0
  /-- The lines left of the file that is open, and whether its last one has an end. -/
  lines : List (List Char) := []
  isCut : Bool := false
  /-- The names of the file of this line, of the file that is open, and of those to come. -/
  name : String := "-"
  opened : String := "-"
  files : List String := []
  following : List Following := []
  replaced : Bool := false
  /-- The expression that was used last. -/
  used : Option Regex := none
  reaches : Array Reach := #[]
  outputs : List (String × Nat) := []
  readers : List (String × List (List Char)) := []
  unfinished : List Target := []
  /-- What is printed while a file is edited in its place. -/
  collected : Array Char := #[]
  failure : Option String := none
  status : Nat := 0

namespace State

/-! ### Printing -/

def put (how : Manner) (s : State) (target : Target) (chars : List Char) : State :=
  match target with
  | .main =>
    if how.inPlace then { s with collected := s.collected ++ chars.toArray }
    else { s with machine := s.machine.print chars }
  | .output => { s with machine := s.machine.print chars }
  | .errors =>
    { s with machine := (s.machine.write 2 (Octet.toBytes chars)).toOption.getD s.machine }
  | .handle number =>
    { s with machine := (s.machine.writeHandle number (Octet.toBytes chars)).toOption.getD s.machine }

/-- Ends a line that was printed without an end. -/
def finishLine (how : Manner) (s : State) (target : Target) : State :=
  if s.unfinished.contains target then
    { s.put how target [how.stop] with unfinished := s.unfinished.filter (· != target) }
  else s

def display (how : Manner) (s : State) (target : Target) (text : Space) : State :=
  let s := (s.finishLine how target).put how target text.text
  if text.ended then s.put how target [how.stop]
  else { s with unfinished := target :: s.unfinished }

/-- Prints what follows the line. -/
def showFollowing (how : Manner) (s : State) : State :=
  s.following.reverse.foldl (fun s f =>
    match f with
    | .text chars => (s.finishLine how .main).put how .main chars
    | .line chars => s.display how .main ⟨chars, true⟩
    | .file name =>
      match s.machine.contents name with
      | .ok (chars, machine) =>
        if chars.isEmpty then { s with machine }
        else ({ s with machine }.finishLine how .main).put how .main chars
      | .error _ => s) { s with following := [] }

/-! ### Reading -/

/-- Opens the next file that has lines, if no line is left of the one that is open. -/
def openNext (how : Manner) : List String → State → State
  | [], s => s
  | name :: files, s =>
    if !s.lines.isEmpty || s.failure.isSome then s
    else
      match s.machine.contents name with
      | .error .isADirectory =>
        let name := if name = "-" then "stdin" else name
        { s with failure := some s!"read error on {name}: Is a directory", status := 4 }
      | .error e =>
        openNext how files { s with
          files
          machine := s.machine.note s!"can't read {name}: {Machine.words e}"
          status := 2 }
      | .ok (chars, machine) =>
        let lines := chars.splitOn how.stop
        let isCut := lines.getLast? != some []
        openNext how files { s with
          files
          machine
          lines := if isCut then lines else lines.dropLast
          isCut := isCut && !chars.isEmpty
          opened := name }

def ready (how : Manner) (s : State) : State := openNext how s.files s

/-- Whether no line is left. -/
def isLast (how : Manner) (s : State) : Bool × State :=
  let s := if how.separate then s else s.ready how
  (s.lines.isEmpty, s)

/-- The next line. -/
def nextLine? (how : Manner) (s : State) : Option Space × State :=
  let s := s.ready how
  match s.lines with
  | [] => (none, s)
  | line :: lines =>
    (some ⟨line, !(s.isCut && lines.isEmpty)⟩,
      { s with lines, line := s.line + 1, name := s.opened })

/-! ### Selecting -/

/-- The match of an expression in the text, or of the one that was used last. -/
def find? (r : Option Regex) (start : Nat) (s : State) : Option Regex.Found × State :=
  match r.or s.used with
  | none => (none, { s with failure := some "-e expression #1, char 0: no previous regular expression", status := 1 })
  | some r =>
    let text : Regex.Text := s.space.text.toArray
    (r.find? text start, { s with used := some r })

def fits (how : Manner) (a : Address) (s : State) : Bool × State :=
  match a with
  | .line n => (s.line == n, s)
  | .step first every => (s.line ≥ first && (s.line - first) % every == 0, s)
  | .last => s.isLast how
  | .fits r =>
    let (found, s) := s.find? r 0
    (found.isSome, s)

/-- Whether a range ends with this line, which is within it. -/
def ends (how : Manner) (stop : Stop) (s : State) : Bool × State :=
  match stop with
  | .last => s.isLast how
  | .fits r =>
    let (found, s) := s.find? r 0
    (found.isSome, s)
  | _ => (true, s)

def reach (s : State) (place : Nat) (r : Reach) : State :=
  { s with reaches := s.reaches.setIfInBounds place r }

/-- Whether a range holds the line. -/
def inRange (how : Manner) (place : Nat) (start : Address) (stop : Stop) (s : State) : Bool × State :=
  match s.reaches.getD place .outside with
  | .inside (some last) =>
    let s := if s.line ≥ last then s.reach place .outside else s
    if s.line ≤ last then (true, s)
    else
      match start with
      | .line _ => (false, s)
      | _ => enter s
  | .inside none =>
    let (ended, s) := s.ends how stop
    (true, if ended then s.reach place .outside else s)
  | .outside => enter s
where
  enter (s : State) : Bool × State :=
    let (begins, s) := s.fits how start
    if !begins then (false, s)
    else
      let upTo (n : Nat) : State := if n > s.line then s.reach place (.inside (some n)) else s
      match stop with
      | .line n => (true, upTo n)
      | .after n => (true, upTo (s.line + n))
      | .multiple n => (true, if n = 0 then s else upTo ((s.line / n + 1) * n))
      | .last | .fits _ => (true, s.reach place (.inside none))

/-- Whether a command is for the line. -/
def selects (how : Manner) (place : Nat) (sel : Selection) (s : State) : Bool × State :=
  let (chosen, s) := match sel.start, sel.stop with
    | none, _ => (true, s)
    | some a, none => s.fits how a
    | some a, some stop => s.inRange how place a stop
  (chosen != sel.negated, s)

/-! ### Changing -/

/-- Letters in the case that is asked for: from now on, and for the next one. -/
structure Casing where
  mode : Option Char := none
  next : Option Char := none

def Casing.write (c : Casing) (chars : List Char) : List Char × Casing :=
  let all (chars : List Char) : List Char := match c.mode with
    | some 'U' => chars.map Char.toUpper
    | some 'L' => chars.map Char.toLower
    | _ => chars
  match chars, c.next with
  | [], _ => ([], c)
  | first :: rest, some 'u' => (first.toUpper :: all rest, { c with next := none })
  | first :: rest, some _ => (first.toLower :: all rest, { c with next := none })
  | chars, none => (all chars, c)

/-- What replaces a match. -/
def replacementText (parts : List Part) (text : Regex.Text) (found : Regex.Found) : List Char :=
  (parts.foldl (fun ((c, out) : Casing × List (List Char)) p =>
    match p with
    | .char d =>
      let (chars, c) := c.write [d]
      (c, chars :: out)
    | .group n =>
      let e := if n = 0 then some found.whole else found.groups.lookup n
      let (chars, c) := c.write ((e.map text.slice).getD [])
      (c, chars :: out)
    | .casing 'u' => ({ c with next := some 'u' }, out)
    | .casing 'l' => ({ c with next := some 'l' }, out)
    | .casing 'E' => ({}, out)
    | .casing letter => ({ mode := some letter }, out)) ({}, [])).2.reverse.flatten

/-- Replaces matches from a position on: the text that comes out, and whether there was one. An empty
match does not count right behind another one. -/
def replaceFrom (r : Regex) (sub : Substitution) (text : Regex.Text) :
    Nat → Nat → Nat → Option Nat → List (List Char) → Bool → List Char × Bool
  | 0, start, _, _, out, done => ((text.slice ⟨start, text.size⟩ :: out).reverse.flatten, done)
  | fuel + 1, start, count, before, out, done =>
    match if start ≤ text.size then r.find? text start else none with
    | none => ((text.slice ⟨start, text.size⟩ :: out).reverse.flatten, done)
    | some found =>
      let e := found.whole
      let out := text.slice ⟨start, e.start⟩ :: out
      let isEmpty := e.start == e.stop
      let skip (out : List (List Char)) : List (List Char) :=
        if isEmpty then text.slice ⟨e.start, e.start + 1⟩ :: out else out
      let next := if isEmpty then e.stop + 1 else e.stop
      if isEmpty && before == some e.start then
        replaceFrom r sub text fuel next count none (skip out) done
      else if count + 1 < sub.first then
        let kept := if isEmpty then out else text.slice e :: out
        replaceFrom r sub text fuel next (count + 1) (some e.stop) (skip kept) done
      else
        let replaced := replacementText sub.parts text found :: out
        if sub.everywhere then
          replaceFrom r sub text fuel next (count + 1) (some e.stop) (skip replaced) true
        else ((text.slice ⟨e.stop, text.size⟩ :: replaced).reverse.flatten, true)

/-- The output of a command of the shell. -/
def evaluate (exec : Exec) (s : State) (command : String) : List Char × State :=
  let (chars, machine) := s.machine.writeOut.1.collecting fun m =>
    match exec m ["sh", "-c", command] with
    | .ok m => m
    | .error _ => m
  (chars, { s with machine := machine.ends s.machine.status })

def target (s : State) (name : String) : Target :=
  if name = "/dev/stdout" then .output
  else if name = "/dev/stderr" then .errors
  else ((s.outputs.lookup name).map .handle).getD .errors

/-- Prints to a named output; the output of the program may be the main one. -/
def showTo (how : Manner) (s : State) (name : String) (text : Space) : State :=
  let t := s.target name
  s.display how (if t == .output && !how.inPlace then .main else t) text

def substitute (how : Manner) (exec : Exec) (sub : Substitution) (s : State) : State :=
  let (found, s) := s.find? sub.regex 0
  match found, s.used with
  | some _, some r =>
    let text : Regex.Text := s.space.text.toArray
    let (chars, done) := replaceFrom r sub text (text.size + 2) 0 0 none [] false
    if !done then s
    else
      let s := { s with space := { s.space with text := chars }, replaced := true }
      let s :=
        if sub.evaluates then
          let (out, s) := s.evaluate exec (String.ofList chars)
          let out := if out.getLast? = some '\n' then out.dropLast else out
          { s with space := { s.space with text := out } }
        else s
      let s := if sub.prints then s.display how .main s.space else s
      match sub.file with
      | some name => s.showTo how name s.space
      | none => s
  | _, _ => s

/-- A character as `l` shows it. -/
def listed (c : Char) : List Char :=
  let n := c.toNat
  if c = '\\' then ['\\', '\\']
  else if n = 8 then ['\\', 'b']
  else if 7 ≤ n ∧ n ≤ 13 then Quoting.escaped c
  else if Quoting.isPrintable c then [c]
  else '\\' :: Quoting.octalDigits n

/-- A text as `l` shows it, in lines of a width. -/
def listing (width : Nat) (text : List Char) : List Char :=
  let (_, out) := text.foldl (fun ((used, out) : Nat × List (List Char)) c =>
    let shown := listed c
    if width > 0 && used + shown.length > width - 1 then (shown.length, shown :: ['\\', '\n'] :: out)
    else (used + shown.length, shown :: out)) (0, [])
  out.reverse.flatten ++ ['$', '\n']

/-! ### Running -/

/-- How the script goes on. -/
inductive Next where
  | at (place : Nat)
  /-- With the next line; the text is printed first, or not. -/
  | cycle (prints : Bool)
  /-- With the same text. -/
  | again
  | quit (prints : Bool)

/-- Runs one command. -/
def apply (how : Manner) (exec : Exec) (script : Script) (place : Nat) (i : Instruction) (s : State) :
    State × Next :=
  let go (s : State) : State × Next := (s, .at (place + 1))
  let stop := how.stop
  match i.action with
  | .block _ | .nothing => go s
  | .append chars => go { s with following := .text chars :: s.following }
  | .insert chars => go ((s.finishLine how .main).put how .main chars)
  | .change chars =>
    let isOver := i.selection.stop.isNone || i.selection.negated || s.reaches.getD place .outside == .outside
    (if isOver then (s.finishLine how .main).put how .main chars else s, .cycle false)
  | .evaluate command =>
    if command = "" then
      let (out, s) := s.evaluate exec (String.ofList s.space.text)
      go { s with space := { s.space with text := if out.getLast? = some '\n' then out.dropLast else out } }
    else
      let (out, s) := s.evaluate exec command
      go ((s.finishLine how .main).put how .main out)
  | .jump letter name =>
    let target : Next := if name = "" then .cycle true
      else .at ((script.labels.lookup name).getD script.instructions.size)
    match letter with
    | 'b' => (s, target)
    | 't' => if s.replaced then ({ s with replaced := false }, target) else go s
    | _ => if s.replaced then go { s with replaced := false } else (s, target)
  | .list width =>
    let width := width.getD how.width
    go ((s.finishLine how .main).put how .main (listing width s.space.text))
  | .quit prints status => ({ s with status }, .quit prints)
  | .file letter name =>
    match letter with
    | 'r' => go { s with following := .file name :: s.following }
    | 'w' => go (s.showTo how name s.space)
    | 'W' => go (s.showTo how name ⟨s.space.text.takeWhile (· ≠ stop), true⟩)
    | _ =>
      let (lines, s) : List (List Char) × State :=
        match s.readers.lookup name with
        | some lines => (lines, s)
        | none =>
          match s.machine.contents name with
          | .ok (chars, machine) => (linesOf chars, { s with machine })
          | .error _ => ([], s)
      match lines with
      | [] => go { s with readers := (name, []) :: s.readers.filter (·.1 != name) }
      | line :: rest =>
        go { s with
          following := .line line :: s.following
          readers := (name, rest) :: s.readers.filter (·.1 != name) }
  | .substitute sub => go (s.substitute how exec sub)
  | .exchange pairs =>
    go { s with space := { s.space with text := s.space.text.map fun c => (pairs.lookup c).getD c } }
  | .plain letter =>
    match letter with
    | '=' => go ((s.finishLine how .main).put how .main ((toString s.line).toList ++ ['\n']))
    | 'd' => (s, .cycle false)
    | 'D' =>
      if s.space.text.contains stop then
        let rest := (s.space.text.dropWhile (· ≠ stop)).drop 1
        ({ s with space := { s.space with text := rest } }, .again)
      else (s, .cycle false)
    | 'F' => go ((s.finishLine how .main).put how .main (s.name.toList ++ ['\n']))
    | 'g' => go { s with space := s.hold }
    | 'G' => go { s with space := ⟨s.space.text ++ stop :: s.hold.text, s.hold.ended⟩ }
    | 'h' => go { s with hold := s.space }
    | 'H' => go { s with hold := ⟨s.hold.text ++ stop :: s.space.text, s.space.ended⟩ }
    | 'n' =>
      let (last, s) := s.isLast how
      if last then (s, .quit true)
      else
        let s := if how.quiet then s else s.display how .main s.space
        match (s.showFollowing how).nextLine? how with
        | (some space, s) => go { s with space }
        | (none, s) => (s, .quit false)
    | 'N' =>
      let (last, s) := s.isLast how
      if last then (s, .quit true)
      else
        match (s.showFollowing how).nextLine? how with
        | (some space, s) =>
          go { s with space := ⟨s.space.text ++ stop :: space.text, space.ended⟩ }
        | (none, s) => (s, .quit true)
    | 'p' => go (s.display how .main s.space)
    | 'P' =>
      let ended := s.space.ended || s.space.text.contains stop
      go (s.display how .main ⟨s.space.text.takeWhile (· ≠ stop), ended⟩)
    | 'x' => go { s with space := s.hold, hold := s.space }
    | _ => go { s with space := { s.space with text := [] } }

/-- Runs the commands from a place on, up to the end of the cycle. -/
def cycle (how : Manner) (exec : Exec) (script : Script) : Nat → Nat → State → State × Next
  | 0, _, s => (s, .quit false)
  | fuel + 1, place, s =>
    match script.instructions[place]? with
    | none => (s, .cycle true)
    | some i =>
      let (chosen, s) := s.selects how place i.selection
      if s.failure.isSome then (s, .quit false)
      else if !chosen then
        match i.action with
        | .block past => cycle how exec script fuel past s
        | _ => cycle how exec script fuel (place + 1) s
      else
        match s.apply how exec script place i with
        | (s, .at next) =>
          if s.failure.isSome then (s, .quit false) else cycle how exec script fuel next s
        | outcome => outcome

/-- The commands that one cycle may run, and the number of cycles. -/
def cycleLimit : Nat := 1000000

/-- Runs cycles until no line is left or the script quits, and tells whether it has. -/
def cycles (how : Manner) (exec : Exec) (script : Script) : Nat → Bool → State → State × Bool
  | 0, _, s => (s, true)
  | fuel + 1, again, s =>
    let (ready, s) : Bool × State :=
      if again then (true, s)
      else
        match s.nextLine? how with
        | (some space, s) => (true, { s with space, replaced := false })
        | (none, s) => (false, s)
    if s.failure.isSome then (s, true)
    else if !ready then (s, false)
    else
      let (s, next) := s.cycle how exec script cycleLimit 0
      let print (prints : Bool) (s : State) : State :=
        (if prints && !how.quiet && s.failure.isNone then s.display how .main s.space else s).showFollowing how
      match next with
      | .quit prints => (print prints s, true)
      | .again => cycles how exec script fuel true (s.showFollowing how)
      | .cycle prints => cycles how exec script fuel false (print prints s)
      | .at _ => (s, true)

end State

/-! ### The program -/

/-- Opens the files that a script writes to. -/
def openOutputs (script : Script) (m : Machine) : Except String (List (String × Nat) × Machine) :=
  let names := script.instructions.toList.filterMap fun i =>
    match i.action with
    | .file 'w' name | .file 'W' name => some name
    | .substitute s => s.file
    | _ => none
  let names := (names.filter fun name => name != "/dev/stdout" && name != "/dev/stderr").eraseDups
  names.foldlM (fun (opened, m) name =>
    match m.openPath name .writing with
    | .ok (number, m) => .ok ((name, number) :: opened, m)
    | .error e => .error s!"couldn't open file {name}: {Machine.words e}") ([], m)

def outsideAll (script : Script) : Array Reach :=
  script.instructions.map fun i =>
    match i.selection.start, i.selection.stop with
    | some (.line 0), some _ => .inside none
    | _, _ => .outside

/-- Edits a file in its place, and tells whether the script quits. -/
def editFile (how : Manner) (exec : Exec) (script : Script) (ending : String) (name : String)
    (s : State) : State × Bool :=
  let m := s.machine
  match m.nodeAt name with
  | .ok (.file _ mode) =>
    let (s, ended) := ({ s with
      files := [name], line := 0, collected := #[], reaches := outsideAll script
      unfinished := s.unfinished.filter (· != .main) } : State).cycles how exec script State.cycleLimit false
    let backup := if ending.toList.contains '*' then
        ending.replace "*" (Program.lastName name)
      else name ++ ending
    let at? (m : Machine) (name : String) : Option Key :=
      (m.files.locate (Machine.pathOf name)).toOption
    let m := s.machine
    let m :=
      match at? m name, if ending = "" then none else at? m backup with
      | some key, some other => m.moveKey key other
      | some key, none => m.unname key
      | none, _ => m
    let m :=
      match at? m name with
      | some key =>
        { m with files := m.files.insert key (.file (Octet.toBytes s.collected.toList) mode) }
      | none => m
    ({ s with machine := m }, ended)
  | .ok _ => ({ s with machine := m.note s!"couldn't edit {name}: not a regular file", status := 4 }, false)
  | .error e => ({ s with machine := m.note s!"can't read {name}: {Machine.words e}", status := 2 }, false)

/-- Goes over files one by one. -/
def editEach (edit : String → State → State × Bool) : List String → State → State
  | [], s => s
  | name :: names, s =>
    let (s, ended) := edit name s
    if ended || s.failure.isSome then s else editEach edit names s

/-- Runs a script over files. -/
def run (how : Manner) (exec : Exec) (script : Script) (ending : String) (files : List String)
    (m : Machine) : Machine :=
  match openOutputs script m with
  | .error text => m.noteFailure 4 text
  | .ok (outputs, m) =>
    let s : State := { machine := m, outputs, reaches := outsideAll script }
    let s :=
      if how.inPlace then editEach (editFile how exec script ending) files s
      else if how.separate then
        editEach (fun name s =>
          ({ s with files := [name], line := 0, reaches := outsideAll script } : State).cycles how exec script
            State.cycleLimit false) files s
      else (({ s with files } : State).cycles how exec script State.cycleLimit false).1
    match s.failure with
    | some text => s.machine.noteFailure s.status text
    | none => s.machine.ends s.status

def known : Known := ⟨"bsnrzuEe:f:l:i::V:\x01\x02\x03\x04",
  [("binary", 'b'), ("regexp-extended", 'E'), ("expression", 'e'), ("file", 'f'), ("in-place", 'i'),
    ("line-length", 'l'), ("null-data", 'z'), ("zero-terminated", 'z'), ("quiet", 'n'), ("silent", 'n'),
    ("posix", '\x01'), ("separate", 's'), ("unbuffered", 'u'), ("sandbox", '\x02'),
    ("follow-symlinks", '\x03'), ("debug", '\x04')], false⟩

def usage (m : Machine) : Machine :=
  (m.complain s!"Usage: {m.name} [OPTION]... \x7bscript-only-if-no-other-script\x7d [input-file]...").ends 1

/-- The pieces of the script, and the files behind them. -/
def pieces (o : Options) (m : Machine) : Except String (Option (List (Source × List Char) × List String)) := do
  let given := o.found.filter fun f => f.1 == 'e' || f.1 == 'f'
  if given.isEmpty then
    match o.operands with
    | [] => return none
    | text :: files => return some ([(.expression 1, text.toList)], files)
  else
    let (_, parts) ← given.foldlM (fun ((n, parts) : Nat × List (Source × List Char)) (letter, value) =>
      if letter = 'e' then .ok (n + 1, (.expression n, value.toList) :: parts)
      else
        match m.contents value with
        | .ok (chars, _) =>
          .ok (n, (.file value, if chars.getLast? = some '\n' then chars.dropLast else chars) :: parts)
        | .error e => .error s!"couldn't open file {value}: {Machine.words e}") (1, [])
    return some (parts.reverse, o.operands)

end Sed

def sed : Program := fun exec m args =>
  match Sed.known.read args with
  | .error text => Sed.usage (m.note text)
  | .ok o =>
    match Sed.pieces o m with
    | .error text => m.noteFailure 4 text
    | .ok none => Sed.usage m
    | .ok (some (pieces, files)) =>
      match Sed.readScript (o.has 'E' || o.has 'r') pieces with
      | .error (text, status) => m.noteFailure status text
      | .ok script =>
        let inPlace := o.has 'i'
        let how : Sed.Manner := {
          quiet := o.has 'n' || script.quiet
          separate := o.has 's' || inPlace
          inPlace
          width := ((o.value? 'l').bind natural?).getD 70
          stop := if o.has 'z' then '\x00' else '\n' }
        if inPlace && files.isEmpty then m.noteFailure 4 "no input files"
        else
          let files := if files.isEmpty then ["-"] else files
          (Sed.run how exec script ((o.value? 'i').getD "") files (m.ends 0)).finishWith 4 fun e =>
            s!"couldn't flush stdout: {Machine.words e}"

end ScriptBundle.Shell.Tool
