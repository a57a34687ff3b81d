import ScriptBundle.Regex.Match
import ScriptBundle.Regex.Meaning
import ScriptBundle.Regex.Posix
import ScriptBundle.Shell.Tool.Lines
import ScriptBundle.Shell.Tool.Listing

/-!
# Lines that match

`grep` gives the lines in which one of its patterns occurs, or counts them, or names the files that
have some.
-/

namespace ScriptBundle.Shell.Tool.Grep

/-- The characters of a text, one after the other. -/
def literal (anyCase : Bool) (text : List Char) : Regex :=
  Regex.seqs (text.map fun c => .char (if anyCase then .anyCase (.single c) else .single c))

/-- A set whose name in brackets lacks the brackets of the set itself. -/
def lacksBrackets : Bool → List Char → Bool
  | _, [] => false
  | _, '\\' :: _ :: rest => lacksBrackets false rest
  | _, '[' :: '[' :: rest => lacksBrackets true rest
  | false, '[' :: ':' :: rest =>
    let name := rest.takeWhile (· ≠ ']')
    (name.getLast? = some ':' && name.length > 1) || lacksBrackets false rest
  | inside, c :: rest => lacksBrackets (inside && c != ']') rest

/-- The repetitions at the start of an extended expression, or of a part of one. -/
def idle (fuel : Nat) (atStart : Bool) (text : List Char) : List String :=
  match fuel, text with
  | 0, _ | _, [] => []
  | fuel + 1, '\\' :: rest => idle fuel false (rest.drop 1)
  | fuel + 1, '[' :: ']' :: rest => idle fuel false (rest.dropWhile (· ≠ ']'))
  | fuel + 1, '[' :: '^' :: ']' :: rest => idle fuel false (rest.dropWhile (· ≠ ']'))
  | fuel + 1, '[' :: rest => idle fuel false (rest.dropWhile (· ≠ ']'))
  | fuel + 1, c :: rest =>
    if c = '(' ∨ c = '|' ∨ c = '^' then idle fuel true rest
    else if !atStart then idle fuel false rest
    else if c = '*' ∨ c = '+' ∨ c = '?' then String.singleton c :: idle fuel true rest
    else if c = '{' then
      let after := rest.dropWhile fun d => d.isDigit || d == ','
      if after.length < rest.length ∧ after.head? = some '}' then
        "\x7b...\x7d" :: idle fuel true (after.drop 1)
      else idle fuel false rest
    else idle fuel false rest

/-- What is looked for, from the options. -/
def regex (o : Options) (form : Char) (pattern : List Char) : Except String Regex := do
  let anyCase := (o.lastOf? ['i', 'y', '\x05']).any (· != '\x05')
  let inner ←
    if form = 'F' then pure (literal anyCase pattern)
    else if form = 'P' then
      Regex.read ((if anyCase then "(?i)" else "") ++ String.ofList pattern)
    else do
      let r ← Regex.Posix.read { extended := form == 'E', anyCase } pattern
      if lacksBrackets false pattern then
        throw "character class syntax is [[:space:]], not [:space:]"
      pure r
  if o.has 'x' then return .seq (.look .textStart) (.seq inner (.look .textEnd))
  else if o.has 'w' then return .seq (.look .outsideBefore) (.seq inner (.look .outsideAfter))
  else return inner

/-- The first match of some expressions from a position on, and of those the longest. -/
def firstOf (rs : List Regex) (text : Regex.Text) (start : Nat) : Option Regex.Extent :=
  (rs.filterMap fun r => (r.find? text start).map (·.whole)).foldl (fun best e =>
    match best with
    | none => some e
    | some b => if e.start < b.start ∨ (e.start = b.start ∧ e.stop > b.stop) then some e else some b) none

/-- All matches in a line that are not empty. -/
def allOf (rs : List Regex) (text : Regex.Text) : Nat → Nat → List Regex.Extent
  | 0, _ => []
  | fuel + 1, start =>
    match firstOf rs text start with
    | none => []
    | some e =>
      if e.stop > e.start then e :: allOf rs text fuel e.stop
      else allOf rs text fuel (e.start + 1)

/-- A line with its number and the number of octets before it. -/
structure Line where
  text : List Char
  number : Nat
  offset : Nat
  chosen : Bool

def linesOf (o : Options) (isMatch : List Char → Bool) (text : List Char) : List Line :=
  let stop := if o.has 'z' then '\x00' else '\n'
  let parts := text.splitOn stop
  let parts := if parts.getLast? = some [] then parts.dropLast else parts
  (parts.foldl (fun ((number, offset, lines) : Nat × Nat × List Line) part =>
    (number + 1, offset + part.length + 1,
      ⟨part, number, offset, isMatch part != o.has 'v'⟩ :: lines)) (1, 0, [])).2.2.reverse

/-- How many lines to show before and after each line. -/
structure Context where
  before : Nat := 0
  after : Nat := 0
  asked : Bool := false

def isPainted (o : Options) : Bool := o.value? '\x02' == some "always"

def inColour (o : Options) (colour : String) (text : List Char) : List Char :=
  if isPainted o then s!"\x1b[{colour}m\x1b[K".toList ++ text ++ "\x1b[m\x1b[K".toList else text

/-- The start of a shown line. -/
def heading (o : Options) (name : Option String) (mark : Char) (l : Line) (offset : Nat) : List Char :=
  let named := match name with
    | some name => inColour o "35" name.toList ++ (if o.has 'Z' then ['\x00'] else inColour o "36" [mark])
    | none => []
  let counted (letter : Char) (n : Nat) : List Char :=
    if o.has letter then
      let digits := (toString n).toList
      let digits := if o.has 'T' then List.replicate (4 - digits.length - 2) ' ' ++ digits else digits
      inColour o "32" digits ++ inColour o "36" [mark]
    else []
  let front := named ++ counted 'n' l.number ++ counted 'b' offset
  if o.has 'T' && !front.isEmpty then front ++ ['\t'] else front

/-- The parts of a line in colour. -/
def painted (rs : List Regex) (line : List Char) : List Char :=
  let text : Regex.Text := line.toArray
  let on := "\x1b[01;31m\x1b[K".toList
  let off := "\x1b[m\x1b[K".toList
  let (shown, last) := (allOf rs text (line.length + 1) 0).foldl (fun ((shown, last) : List Char × Nat) e =>
    (shown ++ text.slice ⟨last, e.start⟩ ++ on ++ text.slice e ++ off, e.stop)) ([], 0)
  shown ++ text.slice ⟨last, line.length⟩

/-- Shows the lines of a file: those that match, and those around them. Lines that are not next to
those shown before are set apart from them. -/
def shown (o : Options) (context : Context) (rs : List Regex) (name : Option String) (isFirst : Bool)
    (lines : List Line) : List Char :=
  let stop := if o.has 'z' then '\x00' else '\n'
  let near (l : Line) : Bool := lines.any fun k =>
    k.chosen && l.number + context.before ≥ k.number && l.number ≤ k.number + context.after
  let visible := if context.asked then lines.filter near else lines.filter (·.chosen)
  let paint := isPainted o && !o.has 'v'
  let separator : Option (List Char) := match o.lastOf? ['\x10', '\x11'] with
    | some '\x10' => (o.value? '\x10').map fun text => text.toList ++ ['\n']
    | some _ => none
    | none => some (inColour o "36" ['-', '-'] ++ ['\n'])
  (visible.foldl (fun ((last, out) : Nat × List (List Char)) l =>
    let gap := context.asked && (if last = 0 then !isFirst else l.number != last + 1)
    let out := if gap then separator.toList ++ out else out
    let body : List Char :=
      if o.has 'o' then
        if o.has 'v' || !l.chosen then []
        else
          let text : Regex.Text := l.text.toArray
          (allOf rs text (l.text.length + 1) 0).flatMap fun e =>
            heading o name ':' l (l.offset + e.start) ++ text.slice e ++ [stop]
      else
        let mark := if l.chosen then ':' else '-'
        heading o name mark l l.offset ++
          (if paint && l.chosen then painted rs l.text else l.text) ++ [stop]
    (l.number, body :: out)) (0, [])).2.reverse.flatten

/-- The lines up to the one that matches as the last that counts, and what follows it. -/
def limited (most : Option Nat) (after : Nat) (lines : List Line) : List Line :=
  match most with
  | none => lines
  | some most =>
    (lines.foldl (fun ((count, rest, out) : Nat × Nat × List Line) l =>
      if count ≥ most then
        if rest = 0 then (count, 0, out)
        else if l.chosen then (count, 0, out)
        else (count, rest - 1, l :: out)
      else (if l.chosen then count + 1 else count, after, l :: out)) (0, after, [])).2.2.reverse

/-- What a run of `grep` looks for, and how. -/
structure Search where
  options : Options
  regexes : List Regex
  context : Context
  most : Option Nat
  named : Bool

/-- Searches a text under a name, and tells whether lines were chosen. -/
def Search.text (s : Search) (m : Machine) (isFirst : Bool) (name : String) (text : List Char) :
    Machine × Bool :=
  let o := s.options
  let isMatch (line : List Char) : Bool := s.regexes.any (·.occursIn line)
  let lines := limited s.most s.context.after (linesOf o isMatch text)
  let count := lines.countP (·.chosen)
  let found := count > 0
  let label := if s.named then some name else none
  let stop := if o.has 'Z' then ['\x00'] else ['\n']
  if o.has 'q' then (m, found)
  else if o.has 'L' then
    (if found then m else m.print (inColour o "35" name.toList ++ stop), found)
  else if o.has 'l' then
    (if found then m.print (inColour o "35" name.toList ++ stop) else m, found)
  else if o.has 'c' then
    let front := (label.map fun name =>
      inColour o "35" name.toList ++ (if o.has 'Z' then ['\x00'] else inColour o "36" [':'])).getD []
    (m.print (front ++ s!"{count}\n".toList), found)
  else if text.contains '\x00' && !o.has 'a' && !o.has 'z' then
    (if found then m.note s!"{name}: binary file matches" else m, found)
  else (m.print (shown o s.context s.regexes label isFirst lines), found)

/-- Searches one operand. -/
def Search.operand (s : Search) (m : Machine) (isFirst : Bool) (operand : String) : Machine × Bool :=
  let o := s.options
  let name := if operand = "-" then (o.value? '\x03').getD "(standard input)" else operand
  let complain (m : Machine) (text : String) : Machine :=
    if o.has 's' then m.ends 2 else m.noteFailure 2 text
  match m.contents operand with
  | .error .isADirectory =>
    let m := complain m s!"{name}: Is a directory"
    if o.has 'c' || o.has 'L' then ((s.text m isFirst name []).1, false) else (m, false)
  | .error e => (complain m s!"{name}: {Machine.words e}", false)
  | .ok (text, read) =>
    if isOwnOutput m operand && !text.isEmpty && !(o.has 'q' || o.has 'l' || o.has 'L' || o.has 'c') then
      (complain m s!"{name}: input file is also the output", false)
    else s.text read isFirst name text

/-- Whether a file below a directory is searched. -/
def wanted (o : Options) (name : String) : Bool :=
  let fits (pattern : String) : Bool := Wildcard.accepts (wildcards pattern false) name.toList
  (o.values '\x06').all (fun p => !fits p) &&
    ((o.values '\x04').isEmpty || (o.values '\x04').any fits)

/-- The files that an operand stands for. -/
def below (m : Machine) (o : Options) : Nat → String → Key → List String
  | 0, _, _ => []
  | fuel + 1, path, key =>
    -- In the order of their names.
    ((m.files.children key).mergeSort fun a b => a.1 ≤ b.1).flatMap fun (name, node) =>
      let inner := if path.isEmpty then Octet.ofText name
        else if path.endsWith "/" then path ++ Octet.ofText name
        else path ++ "/" ++ Octet.ofText name
      if node.isDirectory then
        if (o.values '\x07').any fun p => Wildcard.accepts (wildcards p false) (Octet.ofText name).toList then []
        else below m o fuel inner (key ++ [name])
      else if wanted o (Octet.ofText name) then [inner] else []

def known : Known := ⟨"0123456789A:B:C:EFGHILPTUVZabcd:e:f:hilm:noqRrsuvwxyz\x02::\x03:\x04:\x05\x06:\x07:\x0e\x10:\x11",
  [("after-context", 'A'), ("before-context", 'B'), ("context", 'C'), ("extended-regexp", 'E'),
    ("fixed-strings", 'F'), ("fixed-regexp", 'F'), ("basic-regexp", 'G'), ("perl-regexp", 'P'),
    ("no-ignore-case", '\x05'), ("no-filename", 'h'), ("no-group-separator", '\x11'),
    ("no-messages", 's'), ("group-separator", '\x10'), ("with-filename", 'H'), ("files-without-match", 'L'),
    ("files-with-matches", 'l'), ("initial-tab", 'T'), ("binary", 'U'), ("null", 'Z'), ("text", 'a'),
    ("byte-offset", 'b'), ("count", 'c'), ("directories", 'd'), ("regexp", 'e'), ("file", 'f'),
    ("ignore-case", 'i'), ("max-count", 'm'), ("line-number", 'n'),
    ("only-matching", 'o'), ("quiet", 'q'), ("silent", 'q'), ("recursive", 'r'),
    ("dereference-recursive", 'R'), ("invert-match", 'v'),
    ("word-regexp", 'w'), ("line-regexp", 'x'), ("null-data", 'z'), ("color", '\x02'),
    ("colour", '\x02'), ("label", '\x03'), ("include", '\x04'), ("exclude", '\x06'),
    ("exclude-dir", '\x07'), ("line-buffered", '\x0e')], false⟩

def usage (m : Machine) : Machine :=
  ((m.writeOut.1.complain "Usage: grep [OPTION]... PATTERNS [FILE]...").complain
    "Try 'grep --help' for more information.").ends 2

/-- The lines of the patterns, and the operands behind them. -/
def patterns (o : Options) (m : Machine) : Except (Option String) (List (List Char) × List String × Machine) := do
  let given := o.found.filter fun f => f.1 == 'e' || f.1 == 'f'
  if given.isEmpty then
    match o.operands with
    | [] => throw none
    | text :: operands =>
      let chars := match text.toList with
        | '\\' :: '-' :: rest => '-' :: rest
        | chars => chars
      return (chars.splitOn '\n', operands, m)
  else
    let (lines, m) ← given.foldlM (fun (lines, m) (letter, text) =>
      if letter = 'e' then .ok (lines ++ text.toList.splitOn '\n', m)
      else
        match m.contents text with
        | .ok (read, m) => .ok (lines ++ Tool.linesOf read, m)
        | .error e => .error (some s!"{text}: {Machine.words e}")) (([] : List (List Char)), m)
    return (lines, o.operands, m)

/-- The context that the options ask for. -/
def context (o : Options) : Except String Context := do
  let digits := (o.found.filter fun f => f.1.isDigit).map (·.1)
  let count (letter : Char) : Except String (Option Nat) :=
    match o.value? letter with
    | none => .ok none
    | some text =>
      match natural? text with
      | some n => .ok (some n)
      | none => .error s!"{text}: invalid context length argument"
  let both ← count 'C'
  let both := both.or (String.ofList digits).toNat?
  let after ← count 'A'
  let before ← count 'B'
  return ⟨(before.or both).getD 0, (after.or both).getD 0, both.isSome || after.isSome || before.isSome⟩

/-- Runs `grep` with a form of its patterns. -/
def run (form : Option Char) : Program := fun _ m args =>
  match known.read args with
  | .error text => usage (m.note text)
  | .ok o =>
    let forms := (form.toList ++ (o.found.filter fun f => "EFGP".toList.contains f.1).map (·.1)).eraseDups
    let form := (o.lastOf? ['E', 'F', 'G', 'P']).or form
    match context o with
    | .error text => m.noteFailure 2 text
    | .ok context =>
      let most := (o.value? 'm').map natural?
      if most == some none then m.noteFailure 2 "invalid max count"
      else if forms.length > 1 then m.noteFailure 2 "conflicting matchers specified"
      else
        match patterns o m with
        | .error none => usage m
        | .error (some text) => m.noteFailure 2 text
        | .ok (lines, operands, m) =>
          match lines.mapM (regex o (form.getD 'G')) with
          | .error text => m.noteFailure 2 text
          | .ok regexes =>
            let warnings := if form == some 'E' then
                lines.flatMap fun text => idle (text.length + 1) true text
              else []
            let m := warnings.foldl (fun m sign => m.note s!"warning: {sign} at start of expression") m
            let deep := o.has 'r' || o.has 'R'
            let operands := if operands.isEmpty then [if deep then "" else "-"] else operands
            let isDirectory (operand : String) : Bool :=
              operand = "" || m.files.isDirectory (Machine.pathOf operand)
            let named := match o.lastOf? ['H', 'h'] with
              | some 'H' => true
              | some _ => false
              | none => operands.length > 1 || (deep && operands.any isDirectory)
            let s : Search := ⟨o, regexes, context, most.getD none, named⟩
            let files := operands.flatMap fun operand =>
              if deep && operand != "-" && isDirectory operand then
                let key := (m.files.locate (Machine.pathOf (if operand = "" then "." else operand))).toOption
                (key.map fun key => below m o 100 operand key).getD []
              else if operand = "-" || wanted o operand || !m.files.has (Machine.pathOf operand) then [operand]
              else []
            let (m, found) := files.foldl (fun ((m, found) : Machine × Bool) operand =>
              if found && o.has 'q' then (m, found)
              else
                let (m, more) := s.operand m (!found) operand
                (m, found || more)) (m.ends 0, false)
            let m := m.finish 2
            let failed := m.status
            if found && (o.has 'q' || failed = 0) then m.ends 0
            else if failed != 0 then m.ends failed
            else m.ends 1

end Grep

def grep : Program := Grep.run none

/-- `grep` with another form of patterns, under its own name. -/
def grepAs (form : Char) : Program := fun exec m args => Grep.run (some form) exec { m with name := "grep" } args

end ScriptBundle.Shell.Tool
