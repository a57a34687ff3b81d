import ScriptBundle.Shell.Tool.Lines
import ScriptBundle.Text.Changes

/-!
# Two files side by side

`cmp` finds the first octet in which two files differ; `diff` finds the lines that must be changed to
make one file out of another, and shows them in one of several forms.
-/

namespace ScriptBundle.Shell.Tool

/-- Complains about the arguments of a tool that puts its name before every line. -/
def misused (m : Machine) (text : String) : Machine :=
  let hint := s!"Try '{m.name} --help' for more information."
  (m.note text).noteFailure 2 hint

/-! ### Octets -/

/-- An octet as a character that can be seen. -/
def seen (c : Char) : String := String.ofList (visible true true c)

/-- A count that an option or an operand gives. -/
def countOf (name : String) (text : Option String) : Except String (Option Nat) :=
  match text with
  | none => .ok none
  | some text =>
    match size? text with
    | some n => .ok (some n)
    | none => .error s!"invalid --{name} value '{text}'"

/-- How many octets of each file are passed over. -/
def skips (o : Options) (extra : List String) : Except String (Nat × Nat) := do
  let both := (o.value? 'i').map fun text => text.splitOn ":"
  let (first, second) ← match both with
    | some (a :: b :: _) => pure (some a, some b)
    | some (a :: _) => pure (some a, some a)
    | _ => pure (none, none)
  let a ← countOf "ignore-initial" (extra.head?.or first)
  let b ← countOf "ignore-initial" ((extra.drop 1).head?.or second)
  return (a.getD 0, b.getD 0)

/-- The place of the first difference: the octets before it, and the line feeds among them. -/
def agreement : List Char → List Char → Nat × Nat
  | x :: xs, y :: ys =>
    if x = y then
      let (n, lines) := agreement xs ys
      (n + 1, if x = '\n' then lines + 1 else lines)
    else (0, 0)
  | _, _ => (0, 0)

def padTo (width : Nat) (text : String) : String :=
  text ++ String.ofList (List.replicate (width - text.length) ' ')

/-- Says that one of two files ended, before anything is written. -/
def ended (o : Options) (m : Machine) (name : String) (shorter : List Char) : Machine :=
  let count := shorter.length
  let feeds := shorter.count '\n'
  let place :=
    if count = 0 then "which is empty"
    else if o.has 'l' then s!"after byte {count}"
    else if shorter.getLast? = some '\n' then s!"after byte {count}, line {feeds}"
    else s!"after byte {count}, in line {feeds + 1}"
  (m.complain s!"{m.name}: EOF on {name} {place}").ends 1

def octal (c : Char) : String := String.ofList (inColumn 3 (String.ofList (Nat.toDigits 8 c.toNat)))

def compareOctets (o : Options) (m : Machine) (nameA nameB : String) (a b : List Char) : Machine :=
  let (same, feeds) := agreement a b
  let common := min a.length b.length
  if o.has 's' then (if a = b then m else m.ends 1)
  else if o.has 'l' then
    let width := (toString (max a.length b.length)).length
    let lines := ((a.zip b).zipIdx.filter fun ((x, y), _) => x != y).map fun ((x, y), i) =>
      let place := String.ofList (inColumn width (toString (i + 1)))
      if o.has 'b' then
        let (ox, oy) := (octal x, octal y)
        let (sx, sy) := (padTo 4 (seen x), seen y)
        s!"{place} {ox} {sx} {oy} {sy}\n"
      else
        let (ox, oy) := (octal x, octal y)
        s!"{place} {ox} {oy}\n"
    let m := if lines.isEmpty then m else (m.printText (String.join lines)).ends 1
    if a.length < b.length then ended o m nameA a
    else if b.length < a.length then ended o m nameB b
    else m
  else
    match a.drop common, b.drop common, a[same]?, b[same]? with
    | _, _, some x, some y =>
      let (ox, oy) := (octal x, octal y)
      let (sx, sy) := (seen x, seen y)
      let what := if o.has 'b' then "byte" else "char"
      let shown := if o.has 'b' then s!" is {ox} {sx} {oy} {sy}" else ""
      (m.printText s!"{nameA} {nameB} differ: {what} {same + 1}, line {feeds + 1}{shown}\n").ends 1
    | _ :: _, [], _, _ => ended o m nameB b
    | [], _ :: _, _, _ => ended o m nameA a
    | _, _, _, _ => m

def cmp : Program := fun _ m args =>
  let known : Known := ⟨"bi:ln:sz", [("print-bytes", 'b'), ("print-chars", 'b'), ("ignore-initial", 'i'),
    ("verbose", 'l'), ("bytes", 'n'), ("quiet", 's'), ("silent", 's')], false⟩
  match known.read args with
  | .error text => misused m text
  | .ok o =>
    let m := m.ends 0
    match o.operands, countOf "bytes" (o.value? 'n'), skips o (o.operands.drop 2) with
    | _, .error text, _ => misused m text
    | _, _, .error text => misused m text
    | [], _, _ => misused m s!"missing operand after '{m.name}'"
    | _ :: _ :: _ :: _ :: extra :: _, _, _ => misused m s!"extra operand '{extra}'"
    | nameA :: rest, .ok most, .ok (skipA, skipB) =>
      let nameB := rest.headD "-"
      if o.has 'l' && o.has 's' then misused m "options -l and -s are incompatible"
      else if nameA = nameB && skipA = skipB then m
      else
        let complain (name : String) (e : FileError) : Machine :=
          if o.has 's' && e ≠ .isADirectory then m.ends 2
          else m.noteFailure 2 s!"{name}: {Machine.words e}"
        match m.contents nameA with
        | .error e => complain nameA e
        | .ok (a, m) =>
          match m.contents nameB with
          | .error e => complain nameB e
          | .ok (b, m) =>
            let part (skip : Nat) (text : List Char) : List Char :=
              let text := text.drop skip
              match most with
              | some n => text.take n
              | none => text
            (compareOctets o m nameA nameB (part skipA a) (part skipB b)).finish 2

/-! ### Lines -/

namespace Diff

inductive Form where
  | normal
  | unified
  | context
  | script
  | counted
  deriving DecidableEq, Repr

/-- How two files are compared, and how that is shown. -/
structure Plan where
  options : Options
  form : Form
  around : Nat
  /-- The command as it was given, without the files. -/
  command : String

/-- A line of a file, and whether its line feed is missing. -/
structure Line where
  text : List Char
  isCut : Bool
  deriving DecidableEq, Repr

def Line.whole (l : Line) : List Char :=
  if l.isCut then l.text ++ "\n\\ No newline at end of file\n".toList else l.text ++ ['\n']

def linesOf (text : List Char) : List Line :=
  let lines := Tool.linesOf text
  let cut := isCut text
  lines.zipIdx.map fun (line, i) => ⟨line, cut && i + 1 = lines.length⟩

def isSpace (c : Char) : Bool := c == ' ' || ('\t' ≤ c && c ≤ '\r')

/-- One space for every run of spaces, and none at the end. -/
def squeezed : List Char → List Char
  | [] => []
  | c :: rest =>
    let after := squeezed rest
    if isSpace c then
      match after with
      | [] => []
      | ' ' :: _ => after
      | _ => ' ' :: after
    else c :: after

/-- What is compared of a line. -/
def Plan.key (p : Plan) (l : Line) : List Char × Bool :=
  let o := p.options
  let text :=
    if o.has 'w' then l.text.filter fun c => !isSpace c
    else if o.has 'b' then squeezed l.text
    else if o.has 'Z' then (l.text.reverse.dropWhile isSpace).reverse
    else l.text
  let text := if o.has 'i' then text.map Char.toLower else text
  (text, l.isCut && !(o.has 'w' || o.has 'b' || o.has 'Z'))

/-- The changes between two files. -/
def Plan.changes (p : Plan) (a b : List Line) : List Changes.Change :=
  let keysA := a.map p.key
  let keysB := b.map p.key
  let all := (keysA ++ keysB).eraseDups
  let numbers (keys : List (List Char × Bool)) : Array Nat := (keys.map fun k => all.idxOf k).toArray
  let around := if p.form = .unified || p.form = .context then p.around else 0
  let found := Changes.list (Changes.commonEnds around a b) (numbers keysA) (numbers keysB)
  if p.options.has 'B' then
    let blank (lines : List Line) (start stop : Nat) : Bool :=
      ((lines.drop start).take (stop - start)).all fun l => l.text.isEmpty
    found.filter fun c => !(blank a c.xStart c.xStop && blank b c.yStart c.yStop)
  else found

def part (lines : List Line) (start stop : Nat) : List Line := (lines.drop start).take (stop - start)

/-- The lines from one number on, as they stand in front of a change. -/
def range (start stop : Nat) : String :=
  if stop ≤ start then toString start
  else if stop = start + 1 then toString stop
  else s!"{start + 1},{stop}"

def letterOf (c : Changes.Change) : String :=
  if c.xStart = c.xStop then "a" else if c.yStart = c.yStop then "d" else "c"

def prefixed (mark : String) (lines : List Line) : List Char :=
  lines.flatMap fun l => mark.toList ++ l.whole

def normal (a b : List Line) (c : Changes.Change) : List Char :=
  let (left, letter, right) := (range c.xStart c.xStop, letterOf c, range c.yStart c.yStop)
  s!"{left}{letter}{right}\n".toList ++ prefixed "< " (part a c.xStart c.xStop)
    ++ (if letter = "c" then "---\n".toList else []) ++ prefixed "> " (part b c.yStart c.yStop)

/-- A change as commands of an editor that goes from the end to the start. -/
def script (b : List Line) (c : Changes.Change) : List Char :=
  let (left, letter) := (range c.xStart c.xStop, letterOf c)
  s!"{left}{letter}\n".toList ++
    (if letter = "d" then []
    else (part b c.yStart c.yStop).flatMap (fun l => l.text ++ ['\n']) ++ ['.', '\n'])

/-- A change as counts of lines to delete and to add. -/
def counted (b : List Line) (c : Changes.Change) : List Char :=
  let added := part b c.yStart c.yStop
  (if c.xStop > c.xStart then s!"d{c.xStart + 1} {c.xStop - c.xStart}\n".toList else []) ++
    (if added.isEmpty then []
    else s!"a{c.xStop} {added.length}\n".toList ++
      added.flatMap fun l => l.text ++ (if l.isCut then [] else ['\n']))

/-- Changes that are near enough to be shown together. -/
def hunks (around : Nat) : List Changes.Change → List (List Changes.Change)
  | [] => []
  | c :: rest =>
    match hunks around rest with
    | (d :: more) :: others =>
      if d.xStart - c.xStop ≤ 2 * around then (c :: d :: more) :: others else [c] :: (d :: more) :: others
    | others => [c] :: others

/-- The part of both files around some changes. -/
structure Extent where
  xStart : Nat
  xStop : Nat
  yStart : Nat
  yStop : Nat

def extent (around : Nat) (a b : List Line) (cs : List Changes.Change) : Extent :=
  let first := cs.head?.getD ⟨0, 0, 0, 0⟩
  let last := cs.getLast?.getD ⟨0, 0, 0, 0⟩
  ⟨first.xStart - around, min (last.xStop + around) a.length, first.yStart - around,
    min (last.yStop + around) b.length⟩

/-- A range of lines by its start and length. -/
def counts (start stop : Nat) : String :=
  if stop ≤ start then s!"{start},0"
  else if stop = start + 1 then toString stop
  else s!"{start + 1},{stop - start}"

def unified (around : Nat) (a b : List Line) (cs : List Changes.Change) : List Char :=
  let e := extent around a b cs
  let (left, right) := (counts e.xStart e.xStop, counts e.yStart e.yStop)
  let (last, body) := cs.foldl (fun ((x, body) : Nat × List Char) c =>
    (c.xStop, body ++ prefixed " " (part a x c.xStart) ++ prefixed "-" (part a c.xStart c.xStop)
      ++ prefixed "+" (part b c.yStart c.yStop))) (e.xStart, [])
  s!"@@ -{left} +{right} @@\n".toList ++ body ++ prefixed " " (part a last e.xStop)

/-- One side of a hunk: the lines around the changes plain, those in them marked. -/
def side (lines : List Line) (start stop : Nat) (parts : List (Nat × Nat × String)) : List Char :=
  let (last, body) := parts.foldl (fun ((x, body) : Nat × List Char) (first, next, mark) =>
    (next, body ++ prefixed "  " (part lines x first) ++ prefixed mark (part lines first next))) (start, [])
  body ++ prefixed "  " (part lines last stop)

/-- A range of lines in the form with both sides apart. -/
def wide (start stop : Nat) : String := if stop ≤ start + 1 then toString stop else s!"{start + 1},{stop}"

def apart (around : Nat) (a b : List Line) (cs : List Changes.Change) : List Char :=
  let e := extent around a b cs
  let (left, right) := (wide e.xStart e.xStop, wide e.yStart e.yStop)
  let removed := cs.filter fun c => c.xStop > c.xStart
  let added := cs.filter fun c => c.yStop > c.yStart
  let mark (c : Changes.Change) (alone : String) : String := if letterOf c = "c" then "! " else alone
  s!"***************\n*** {left} ****\n".toList
    ++ (if removed.isEmpty then []
      else side a e.xStart e.xStop (removed.map fun c => (c.xStart, c.xStop, mark c "- ")))
    ++ s!"--- {right} ----\n".toList
    ++ (if added.isEmpty then []
      else side b e.yStart e.yStop (added.map fun c => (c.yStart, c.yStop, mark c "+ ")))

/-- The lines that name the files. -/
def heading (p : Plan) (marks : String × String) (nameA nameB : String) : List Char :=
  let labels := p.options.values 'L'
  let time := if p.form = .unified then "1970-01-01 00:00:00.000000000 +0000" else "Thu Jan  1 00:00:00 1970"
  let line (mark name : String) (label : Option String) : String :=
    match label with
    | some label => s!"{mark} {label}\n"
    | none => s!"{mark} {name}\t{time}\n"
  (line marks.1 nameA labels[0]? ++ line marks.2 nameB labels[1]?).toList

def Plan.shown (p : Plan) (nameA nameB : String) (a b : List Line) (cs : List Changes.Change) : List Char :=
  match p.form with
  | .normal => cs.flatMap (normal a b)
  | .script => cs.reverse.flatMap (script b)
  | .counted => cs.flatMap (counted b)
  | .unified => heading p ("---", "+++") nameA nameB ++ (hunks p.around cs).flatMap (unified p.around a b)
  | .context => heading p ("***", "---") nameA nameB ++ (hunks p.around cs).flatMap (apart p.around a b)

/-- Compares two texts, and shows how they differ. The status is zero if they are alike. -/
def Plan.texts (p : Plan) (m : Machine) (isTop : Bool) (nameA nameB : String) (a b : List Char) :
    Machine × Nat :=
  let o := p.options
  let alike (m : Machine) : Machine × Nat :=
    (if o.has 's' then m.printText s!"Files {nameA} and {nameB} are identical\n" else m, 0)
  let isBinary := !o.has 'a' && (a.contains '\x00' || b.contains '\x00')
  if a = b then alike m
  else if isBinary && !o.has 'q' then (m.printText s!"Binary files {nameA} and {nameB} differ\n", 1)
  else
    let strip (text : List Char) : List Char :=
      if o.has '\x01' then
        unlines (isCut text) ((Tool.linesOf text).map fun l => if l.getLast? = some '\r' then l.dropLast else l)
      else text
    let lines (text : List Char) : List Line :=
      -- Commands of an editor cannot leave a line feed out.
      (linesOf (strip text)).map fun l => { l with isCut := l.isCut && p.form != .script }
    let (linesA, linesB) := (lines a, lines b)
    let cs := p.changes linesA linesB
    if cs.isEmpty && p.form != .script then alike m
    else if o.has 'q' then (m.printText s!"Files {nameA} and {nameB} differ\n", 1)
    else
      let m := if isTop then m else m.printText s!"{p.command} {nameA} {nameB}\n"
      let m := m.print (p.shown nameA nameB linesA linesB cs)
      let missing := (if isCut a then [nameA] else []) ++ (if isCut b then [nameB] else [])
      match if p.form = .script then missing else [] with
      | [] => (m, 1)
      | missing => (missing.foldl (fun m name => m.note s!"{name}: No newline at end of file\n") m, 2)

def joined (directory name : String) : String :=
  if directory.endsWith "/" then directory ++ name else s!"{directory}/{name}"

def kindOf (n : Node) : String :=
  match n with
  | .directory _ => "directory"
  | .file [] _ => "regular empty file"
  | .file _ _ => "regular file"
  | .device .. => "character special file"

/-- What is read of a file, nothing if it is not there and counts as empty. -/
def Plan.read (p : Plan) (m : Machine) (name : String) : Except FileError (List Char × Machine) :=
  match m.contents name with
  | .error .notFound => if p.options.has 'N' then .ok ([], m) else .error .notFound
  | r => r

def Plan.files (p : Plan) (m : Machine) (isTop : Bool) (nameA nameB : String) : Machine × Nat :=
  match p.read m nameA with
  | .error e => (m.note s!"{nameA}: {Machine.words e}", 2)
  | .ok (a, m) =>
    match p.read m nameB with
    | .error e => (m.note s!"{nameB}: {Machine.words e}", 2)
    | .ok (b, m) => p.texts m isTop nameA nameB a b

/-- The entries of a directory by name. -/
def entries (m : Machine) (directory : String) : List (String × Node) :=
  match m.files.locate (Machine.pathOf directory) with
  | .ok key => (m.files.children key).map fun (name, node) => (Octet.ofText name, node)
  | .error _ => []

/-- Compares the entries of two directories that have the same name. -/
def Plan.directories (p : Plan) : Nat → Machine → String → String → Machine × Nat
  | 0, m, _, _ => (m, 2)
  | fuel + 1, m, dirA, dirB =>
    let (inA, inB) := (entries m dirA, entries m dirB)
    let names := ((inA ++ inB).map (·.1)).eraseDups.mergeSort fun a b => a ≤ b
    let deep := p.options.has 'r'
    names.foldl (fun ((m, status) : Machine × Nat) name =>
      let (nameA, nameB) := (joined dirA name, joined dirB name)
      let absent := p.options.has 'N'
      let (m, more) : Machine × Nat :=
        match inA.lookup name, inB.lookup name with
        | some (.directory _), some (.directory _) =>
          if deep then p.directories fuel m nameA nameB
          else (m.printText s!"Common subdirectories: {nameA} and {nameB}\n", 0)
        | some a, some b =>
          if a.isDirectory || b.isDirectory then
            let (kindA, kindB) := (kindOf a, kindOf b)
            (m.printText s!"File {nameA} is a {kindA} while file {nameB} is a {kindB}\n", 1)
          else p.files m false nameA nameB
        | some a, none =>
          if absent && deep && a.isDirectory then p.directories fuel m nameA nameB
          else if absent && !a.isDirectory then p.files m false nameA nameB
          else (m.printText s!"Only in {dirA}: {name}\n", 1)
        | none, some b =>
          if absent && deep && b.isDirectory then p.directories fuel m nameA nameB
          else if absent && !b.isDirectory then p.files m false nameA nameB
          else (m.printText s!"Only in {dirB}: {name}\n", 1)
        | none, none => (m, 0)
      (m, max status more)) (m, 0)

def Plan.run (p : Plan) (m : Machine) (nameA nameB : String) : Machine × Nat :=
  let kind (name : String) : Option Node := if name = "-" then none else (m.nodeAt name).toOption
  let isDirectory (name : String) : Bool := (kind name).any Node.isDirectory
  let base (name : String) : String := Program.lastName name
  let missing := [nameA, nameB].filter fun name => name != "-" && !m.files.has (Machine.pathOf name)
    && (Machine.descriptorNamed? name).isNone
  if !missing.isEmpty && (!p.options.has 'N' || missing.length = 2) then
    (missing.foldl (fun m name => m.note s!"{name}: {Machine.words .notFound}") m, 2)
  else if isDirectory nameA && isDirectory nameB then p.directories 100 m nameA nameB
  else if isDirectory nameA || isDirectory nameB then
    if nameA = "-" || nameB = "-" then (m.note "cannot compare '-' to a directory", 2)
    else if !missing.isEmpty then p.directories 100 m nameA nameB
    else if isDirectory nameA then p.files m true (joined nameA (base nameB)) nameB
    else p.files m true nameA (joined nameB (base nameA))
  else if nameA = nameB then
    (if p.options.has 's' then m.printText s!"Files {nameA} and {nameB} are identical\n" else m, 0)
  else p.files m true nameA nameB

def known : Known :=
  ⟨"abBcC:diL:nNqrsuU:weZ\x01\x02\x03::", [("text", 'a'), ("ignore-space-change", 'b'), ("ignore-blank-lines", 'B'),
    ("context", 'C'), ("minimal", 'd'), ("ignore-case", 'i'), ("label", 'L'), ("rcs", 'n'), ("new-file", 'N'),
    ("brief", 'q'), ("recursive", 'r'), ("report-identical-files", 's'), ("unified", 'U'),
    ("ignore-all-space", 'w'), ("ed", 'e'), ("ignore-trailing-space", 'Z'), ("strip-trailing-cr", '\x01'),
    ("normal", '\x02'), ("color", '\x03')], false⟩

/-- The form that the options ask for; no two forms go together. -/
def formOf (o : Options) : Except String Form := do
  let forms : List Form := (o.found.filterMap fun (letter, _) =>
    ([('u', Form.unified), ('U', Form.unified), ('c', Form.context), ('C', Form.context), ('e', Form.script),
      ('n', Form.counted), ('\x02', Form.normal)] : List (Char × Form)).lookup letter).eraseDups
  match forms with
  | [] => return .normal
  | [form] => return form
  | _ => throw "conflicting output style options"

def aroundOf (o : Options) : Except String Nat := do
  let given := o.found.filter fun (letter, _) => letter == 'U' || letter == 'C'
  let counts ← given.mapM fun (_, text) =>
    match natural? text with
    | some n => .ok n
    | none => if text = "" then .ok 3 else .error s!"invalid context length '{text}'"
  let plain := if o.has 'u' || o.has 'c' then [3] else []
  return (counts ++ plain).foldl max 0

end Diff

def diff : Program := fun _ m args =>
  -- The long names of two options may stand without a value.
  let args := args.map fun arg => if arg = "--unified" then "-u" else if arg = "--context" then "-c" else arg
  match Diff.known.read args with
  | .error text => misused m text
  | .ok o =>
    let m := m.ends 0
    match Diff.formOf o, Diff.aroundOf o, o.operands with
    | .error text, _, _ => misused m text
    | _, .error text, _ => misused m text
    | _, _, [] => misused m s!"missing operand after '{m.name}'"
    | _, _, [name] => misused m s!"missing operand after '{name}'"
    | _, _, _ :: _ :: extra :: _ => misused m s!"extra operand '{extra}'"
    | .ok form, .ok around, [nameA, nameB] =>
      let options := args.filter fun arg => !o.operands.contains arg
      let p : Diff.Plan := ⟨o, form, around, String.intercalate " " (m.name :: options)⟩
      let (m, status) := p.run m nameA nameB
      (m.ends status).finish 2

end ScriptBundle.Shell.Tool
