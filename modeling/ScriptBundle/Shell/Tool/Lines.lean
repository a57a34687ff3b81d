import ScriptBundle.Shell.Tool.Basic

/-!
# Tools on lines

Tools that give the lines of their files on: all of them, the first or the last, counted, numbered,
folded, or in another order.
-/

namespace ScriptBundle.Shell.Tool

/-- A number in a column. -/
def inColumn (width : Nat) (text : String) : List Char :=
  List.replicate (width - text.length) ' ' ++ text.toList

/-! ### All lines -/

/-- How `cat` stands in its output: the number of the last line, whether a line begins here, and
whether the line before was empty. -/
structure Cat where
  line : Nat := 0
  atStart : Bool := true
  afterEmpty : Bool := false

/-- An octet so that it can be seen; line feeds are not looked at. -/
def visible (tabs others : Bool) (c : Char) : List Char :=
  let n := c.toNat
  let low (n : Nat) : List Char :=
    if n < 32 then ['^', Char.ofNat (n + 64)] else if n = 127 then ['^', '?'] else [Char.ofNat n]
  if n = 9 then if tabs then ['^', 'I'] else [c]
  else if !others then [c]
  else if n < 128 then low n
  else 'M' :: '-' :: low (n - 128)

/-- One piece of a text, as the options ask for it. -/
def Cat.step (o : Options) (s : Cat) (piece : List Char) : Cat × List Char :=
  let all := o.has 'A'
  let others := all || o.has 'v' || o.has 'e' || o.has 't'
  let tabs := all || o.has 'T' || o.has 't'
  let ends := all || o.has 'E' || o.has 'e'
  let isEmpty := piece = ['\n']
  if o.has 's' && isEmpty && s.atStart && s.afterEmpty then (s, [])
  else
    let counts := s.atStart && (if o.has 'b' then !isEmpty else o.has 'n')
    let line := if counts then s.line + 1 else s.line
    let number := if counts then inColumn 6 (toString line) ++ ['\t'] else []
    let hasEnd := piece.getLast? = some '\n'
    let body := if hasEnd then piece.dropLast else piece
    let shown := body.flatMap (visible tabs others)
    let shown :=
      if ends && hasEnd && !others && body.getLast? = some '\r' then shown.dropLast ++ ['^', 'M']
      else shown
    (⟨line, hasEnd, isEmpty && s.atStart⟩,
      number ++ shown ++ (if hasEnd then (if ends then ['$', '\n'] else ['\n']) else []))

/-- Whether an operand is the very file that the output goes to. -/
def isOwnOutput (m : Machine) (operand : String) : Bool :=
  let target := (m.handleOf? 1).bind fun number => m.handles[number]?
  match target with
  | some (.file key ..) =>
    if operand = "-" then
      match (m.handleOf? 0).bind fun number => m.handles[number]? with
      | some (.file other ..) => other == key
      | _ => false
    else (m.files.locate (Machine.pathOf operand)).toOption == some key
  | _ => false

def cat : Program :=
  make ⟨"AbeEnstTuv", [("show-all", 'A'), ("number-nonblank", 'b'), ("show-ends", 'E'), ("number", 'n'),
    ("squeeze-blank", 's'), ("show-tabs", 'T'), ("show-nonprinting", 'v')], false⟩ 1 fun o m =>
    let plain := o.found.all (·.1 == 'u')
    let render (s : Cat) (text : List Char) : Cat × List Char :=
      if plain then (s, text)
      else
        let (s, parts) := (pieces text).foldl (fun (s, parts) piece =>
          let (s, part) := s.step o piece
          (s, part :: parts)) (s, ([] : List (List Char)))
        (s, parts.reverse.flatten)
    if (m.handleOf? 0).isNone && (inputs o).contains "-" then
      (m.noteFailure 1 "-: Bad file descriptor").noteFailure 1 "closing standard input: Bad file descriptor"
    else if (m.handleOf? 1).isNone then m.noteFailure 1 "standard output: Bad file descriptor"
    else
      ((inputs o).foldl (fun (s, m) operand =>
        match m.contents operand with
        | .error e => (s, m.noteFailure 1 s!"{Quoting.ifNeeded operand}: {Machine.words e}")
        | .ok (text, read) =>
          if isOwnOutput m operand && !text.isEmpty then
            (s, m.noteFailure 1 s!"{Quoting.ifNeeded operand}: input file is output file")
          else
            let (s, shown) := render s text
            (s, read.print shown)) ({}, m)).2

def tac : Program :=
  make ⟨"", [], false⟩ 1 fun o m =>
    (inputs o).foldl (fun m operand =>
      match m.contents operand with
      | .ok (text, m) => m.print (pieces text).reverse.flatten
      | .error .isADirectory => m.noteFailure 1 s!"{operand}: read error: Invalid argument"
      | .error e =>
        m.noteFailure 1 s!"failed to open {Quoting.always operand} for reading: {Machine.words e}") m

def rev : Program :=
  make ⟨"", [], false⟩ 1 fun o m =>
    (inputs o).foldl (fun m operand =>
      match if o.operands.isEmpty || operand != "-" then m.contents operand else .error .notFound with
      | .ok (text, m) => m.print (unlines (isCut text) ((linesOf text).map List.reverse))
      | .error .isADirectory => m
      | .error e => m.noteFailure 1 s!"cannot open {operand}: {Machine.words e}") m

def tee : Program :=
  make ⟨"ai", [("append", 'a'), ("ignore-interrupts", 'i')], false⟩ 1 fun o m =>
    match m.readAll 0 with
    | .error e => m.noteFailure 1 s!"read error: {Machine.words e}"
    | .ok (bytes, m) =>
      let how : Machine.Opening := if o.has 'a' then .appending else .writing
      let m := o.operands.foldl (fun m operand =>
        match m.openPath operand how with
        | .error e => m.noteFailure 1 s!"{Quoting.ifNeeded operand}: {Machine.words e}"
        | .ok (number, opened) =>
          match opened.writeHandle number bytes with
          | .ok m => m
          | .error e => opened.noteFailure 1 s!"{Quoting.ifNeeded operand}: {Machine.words e}") m
      match m.write 1 bytes with
      | .ok m => m
      | .error e => m.noteFailure 1 s!"'standard output': {Machine.words e}"

/-- Lines without end, until nobody reads them any more. -/
def yes : Program := fun _ m args =>
  let line := (if args.isEmpty then "y" else String.intercalate " " args) ++ "\n"
  match (m.print ((List.replicate 8192 line.toList).flatten)).writeOut with
  | (m, none) => { m with flow := .killed 13 }
  | (m, some e) => m.noteFailure 1 s!"standard output: {Machine.words e}"

/-! ### The first and the last -/

/-- A part of a text: so many lines or octets, at the start or the end, or all but those. -/
structure Portion where
  octets : Bool := false
  count : Nat := 10
  /-- For the start: all but the last ones. For the end: from a position on. -/
  other : Bool := false

def Portion.first (p : Portion) (text : List Char) : List Char :=
  if p.octets then if p.other then text.take (text.length - p.count) else text.take p.count
  else
    let ps := pieces text
    (if p.other then ps.take (ps.length - p.count) else ps.take p.count).flatten

def Portion.last (p : Portion) (text : List Char) : List Char :=
  if p.octets then
    if p.other then text.drop (p.count - 1) else text.drop (text.length - p.count)
  else
    let ps := pieces text
    (if p.other then ps.drop (p.count - 1) else ps.drop (ps.length - p.count)).flatten

/-- The count of a portion. A sign says which way it is meant. -/
def portion? (octets : Bool) (sign : Char) (text : String) : Except String Portion :=
  let signed := text.toList.head? = some sign
  let digits :=
    if signed || text.startsWith "-" || text.startsWith "+" then (text.drop 1).toString else text
  match size? digits with
  | some count => .ok ⟨octets, count, signed⟩
  | none =>
    let unit := if octets then "bytes" else "lines"
    let shown := if signed && sign == '-' then digits else text
    .error s!"invalid number of {unit}: {Quoting.always shown}"

/-- A first argument that is a dash and a number, as options. -/
def spellOut (args : List String) : List String :=
  match args with
  | first :: rest =>
    match first.toList with
    | '-' :: c :: more =>
      if c.isDigit then
        let text := c :: more
        let digits := text.takeWhile Char.isDigit
        match text.drop digits.length with
        | [] => "-n" :: String.ofList digits :: rest
        | ['c'] => "-c" :: String.ofList digits :: rest
        | ['l'] => "-n" :: String.ofList digits :: rest
        | ['q'] => "-q" :: "-n" :: String.ofList digits :: rest
        | _ => args
      else args
    | _ => args
  | [] => []

/-- Whether an argument says from where on to show, in the old way. -/
def isFromStart (arg : String) : Bool :=
  match arg.toList with
  | '+' :: rest =>
    let after := rest.dropWhile Char.isDigit
    after.length < rest.length && (after.isEmpty || after == ['c'] || after == ['l'])
  | _ => false

/-- Shows a portion of each file, with headings if there are several. -/
def portions (letter : Char) (sign : Char) (cut : Portion → List Char → List Char)
    (skips : Bool) : Program := fun exec m args =>
  let known : Known := ⟨"c:n:qvzfF", [("bytes", 'c'), ("lines", 'n'), ("quiet", 'q'), ("silent", 'q'),
    ("verbose", 'v'), ("follow", 'f')], false⟩
  let body (o : Options) (m : Machine) : Machine :=
    let given := (o.found.reverse.find? fun f => f.1 == 'c' || f.1 == 'n')
    match (given.map fun (l, text) => portion? (l == 'c') sign text).getD (.ok {}) with
    | .error text => m.noteFailure 1 text
    | .ok p =>
      let operands := if skips && p.count = 0 && !p.other then [] else inputs o
      let headed := match o.lastOf? ['q', 'v'] with
        | some 'q' => false
        | some _ => true
        | none => operands.length > 1
      (operands.foldl (fun (first, m) operand =>
        let name := if operand = "-" then "standard input" else operand
        let heading := (if first then "" else "\n") ++ s!"==> {name} <==\n"
        let headed' (m : Machine) := if headed then m.printText heading else m
        let take (text : List Char) (before m : Machine) : Machine :=
          let shown := cut p text
          match if skips then none else (before.handleOf? 0).bind fun n => before.handles[n]? with
          | some (.file ..) =>
            if operand = "-" && !p.other then
              ((before.handleOf? 0).map fun n => before.skip n shown.length).getD m
            else m
          | _ => m
        if p.count = 0 && !p.other && !skips && m.files.has (Machine.pathOf operand) then (false, headed' m)
        else if operand = "/dev/zero" && p.octets then
          (false, (headed' m).print (List.replicate p.count '\x00'))
        else
          match m.contents operand with
          | .ok (text, read) => (false, (headed' (take text m read)).print (cut p text))
          | .error .isADirectory =>
            (false, (headed' m).noteFailure 1 s!"error reading {Quoting.always name}: Is a directory")
          | .error .badDescriptor =>
            (first, m.noteFailure 1 s!"error reading {Quoting.always name}: Bad file descriptor")
          | .error e =>
            (first, m.noteFailure 1
              s!"cannot open {Quoting.always operand} for reading: {Machine.words e}")) (true, m)).2
  match args with
  | first :: operands =>
    let isOld := (first.toList.drop 1).head?.any Char.isDigit && first.startsWith "-"
    let after := (first.toList.drop 1).dropWhile Char.isDigit
    if isOld && (spellOut args).head? == some first && letter == 'h' then
      m.noteUsage 1 s!"invalid trailing option -- {String.ofList (after.take 1)}"
    else if letter = 't' && isOld && operands.length > 1 && operands.head? != some "--" then
      let digit := String.ofList ((first.toList.drop 1).take 1)
      m.noteFailure 1 s!"option used in invalid context -- {digit}"
    else if letter = 't' && operands.length < 2 && isFromStart first then
      make known 1 body exec m ((if first.endsWith "c" then "-c" else "-n") ::
        String.ofList (first.toList.takeWhile fun c => c == '+' || c.isDigit) :: operands)
    else make known 1 body exec m (spellOut args)
  | [] => make known 1 body exec m []

def head : Program := portions 'h' '-' Portion.first false

def tail : Program := portions 't' '+' Portion.last true

/-! ### Counts -/

structure Counts where
  lines : Nat := 0
  words : Nat := 0
  octets : Nat := 0
  longest : Nat := 0

namespace Counts

def isSpace (c : Char) : Bool := c == ' ' || ('\t' ≤ c && c ≤ '\r')

def wordsOf (text : List Char) : Nat :=
  (text.foldl (fun (inside, n) c =>
    if isSpace c then (false, n) else (true, if inside then n else n + 1)) (false, 0)).2

/-- The greatest width of a line; a tab goes on to the next multiple of eight. -/
def longestOf (text : List Char) : Nat :=
  let width (line : List Char) : Nat := line.foldl (fun n c =>
    if c = '\t' then n + (8 - n % 8)
    else if Quoting.isPrintable c then n + 1
    else n) 0
  ((linesOf text).map width).foldl max 0

def of (text : List Char) : Counts :=
  ⟨text.count '\n', wordsOf text, text.length, longestOf text⟩

def add (a b : Counts) : Counts :=
  ⟨a.lines + b.lines, a.words + b.words, a.octets + b.octets, max a.longest b.longest⟩

/-- The counts that are asked for. -/
def row (o : Options) (width : Nat) (c : Counts) : List Char :=
  let asked := o.found.any fun f => "lwcmL".toList.contains f.1
  let wants (letter : Char) := if asked then o.has letter else letter != 'm' && letter != 'L'
  let numbers := [('l', c.lines), ('w', c.words), ('m', c.octets), ('c', c.octets), ('L', c.longest)]
  let shown := (numbers.filter fun (letter, _) => wants letter).map fun (_, n) =>
    inColumn width (toString n)
  [' '].intercalate shown

end Counts

def wc : Program :=
  make ⟨"clmwL", [("bytes", 'c'), ("chars", 'm'), ("lines", 'l'), ("words", 'w'),
    ("max-line-length", 'L')], false⟩ 1 fun o m =>
    let operands := inputs o
    let asked := (o.found.map (·.1)).eraseDups.length
    let sizeOf (operand : String) : Option Nat :=
      if operand = "-" then
        match (m.handleOf? 0).bind fun n => m.handles[n]? with
        | some (.file key ..) =>
          match m.files.node? key with
          | some (.file content _) => some content.length
          | _ => none
        | _ => none
      else
        match m.nodeAt operand with
        | .ok (.file content _) => some content.length
        | .ok _ => none
        | .error _ => some 0
    let sizes := operands.map sizeOf
    let width :=
      if operands.length = 1 && asked = 1 then 1
      else
        let total := (sizes.filterMap id).foldl (· + ·) 0
        max (toString total).length (if sizes.contains none then 7 else 1)
    let named (operand : String) : List Char :=
      if operand = "-" && o.operands.isEmpty then [] else ' ' :: (Quoting.ifNeeded operand).toList
    let (total, m) := operands.foldl (fun (total, m) operand =>
      match m.contents operand with
      | .ok (text, m) =>
        let c := Counts.of text
        (total.add c, m.print (c.row o width ++ named operand ++ ['\n']))
      | .error e =>
        let name := if operand = "-" then "'standard input'" else Quoting.ifNeeded operand
        let m := m.noteFailure 1 s!"{name}: {Machine.words e}"
        (total, if e = .isADirectory then
          m.print (Counts.row o width {} ++ named operand ++ ['\n']) else m)) (({} : Counts), m)
    if operands.length > 1 then m.print (total.row o width ++ " total\n".toList) else m

/-! ### Numbers and folds -/

def nl : Program :=
  make ⟨"b:n:s:v:i:w:", [("body-numbering", 'b'), ("number-format", 'n'), ("number-separator", 's'),
    ("starting-line-number", 'v'), ("line-increment", 'i'), ("number-width", 'w')], false⟩ 1 fun o m =>
    let (text, m) := gather o m 1
    let number (letter : Char) (default : Nat) := ((o.value? letter).bind natural?).getD default
    let width := number 'w' 6
    let separator := ((o.value? 's').getD "\t").toList
    let style := (o.value? 'b').getD "t"
    let step := number 'i' 1
    let (_, lines) := (linesOf text).foldl (fun (n, lines) line =>
      let counts := style == "a" || (style == "t" && !line.isEmpty)
      if counts then
        let digits := toString n
        let padded :=
          match o.value? 'n' with
          | some "ln" => digits.toList ++ List.replicate (width - digits.length) ' '
          | some "rz" => List.replicate (width - digits.length) '0' ++ digits.toList
          | _ => inColumn width digits
        (n + step, (padded ++ separator ++ line) :: lines)
      else (n, (List.replicate (width + separator.length) ' ' ++ line) :: lines))
      (number 'v' 1, ([] : List (List Char)))
    m.print (unlines false lines.reverse)

/-- A line in parts of at most so many columns; at a blank if that is asked for. -/
def foldLine (width : Nat) (atBlanks : Bool) : Nat → List Char → List (List Char)
  | 0, line => [line]
  | fuel + 1, line =>
    let column (n : Nat) (c : Char) : Nat :=
      if c = '\t' then n + (8 - n % 8)
      else if c = Char.ofNat 8 then n - 1
      else if c = '\r' then 0
      else n + 1
    let fitting := (line.foldl (fun (n, taken, goes) c =>
      let next := column n c
      if goes && next ≤ width then (next, taken + 1, true) else (n, taken, false)) (0, 0, true)).2.1
    if fitting ≥ line.length then [line]
    else
      let fitting := max fitting 1
      let head := line.take fitting
      let blank := (head.reverse.takeWhile fun c => c != ' ' && c != '\t').length
      let cut := if atBlanks && blank < fitting then fitting - blank else fitting
      line.take cut :: foldLine width atBlanks fuel (line.drop cut)

def fold : Program := fun exec m args =>
  let known : Known := ⟨"bsw:", [("bytes", 'b'), ("spaces", 's'), ("width", 'w')], false⟩
  -- A number alone is the width.
  let args := args.map fun arg =>
    match arg.toList with
    | '-' :: c :: rest => if (c :: rest).all Char.isDigit then "-w" ++ String.ofList (c :: rest) else arg
    | _ => arg
  make known 1 (fun o m =>
    let given := (o.value? 'w').getD "80"
    match natural? given with
    | none => m.noteFailure 1 s!"invalid number of columns: {Quoting.always given}"
    | some 0 =>
      m.noteFailure 1 s!"invalid number of columns: {Quoting.always given}: Numerical result out of range"
    | some width =>
      forEach o m 1 fun m _ text =>
        let lines := (linesOf text).flatMap fun line => foldLine width (o.has 's') (line.length + 1) line
        m.print (unlines (isCut text) lines)) exec m args

/-- Replaces tabs by blanks up to the next stop. -/
def expandLine (width : Nat) (line : List Char) : List Char :=
  (line.foldl (fun (n, out) c =>
    if c = '\t' then
      let blanks := width - n % width
      (n + blanks, List.replicate blanks ' ' ++ out)
    else (n + 1, c :: out)) (0, ([] : List Char))).2.reverse

def expand : Program :=
  make ⟨"it:", [("initial", 'i'), ("tabs", 't')], false⟩ 1 fun o m =>
    let width := max 1 (((o.value? 't').bind natural?).getD 8)
    forEach o m 1 fun m _ text =>
      m.print (unlines (isCut text) ((linesOf text).map (expandLine width)))

/-- A line in which blanks up to a tab stop are one tab: those in front of it, or all. A single blank in
front of a stop stays unless a tab was next to it. -/
def unexpandLine (width : Nat) (everywhere : Bool) (line : List Char) : List Char :=
  let close (blanks : List Char) (out : List Char) : List Char := blanks ++ out
  let (_, blanks, out, _) := line.foldl (fun ((n, blanks, out, front) : Nat × List Char × List Char × Bool) c =>
    if !(front || everywhere) then (n + 1, [], c :: close blanks out, false)
    else if c = ' ' then
      if (n + 1) % width = 0 then
        if blanks.isEmpty then (n + 1, if front then ['\t'] else [' '], out, front)
        else (n + 1, '\t' :: blanks.filter (· == '\t'), out, front)
      else (n + 1, ' ' :: blanks, out, front)
    else if c = '\t' then ((n / width + 1) * width, '\t' :: blanks.filter (· == '\t'), out, front)
    else (n + 1, [], c :: close blanks out, false)) (0, [], [], true)
  (close blanks out).reverse

def unexpand : Program :=
  make ⟨"at:\x01", [("all", 'a'), ("tabs", 't'), ("first-only", '\x01')], false⟩ 1 fun o m =>
    let width := max 1 (((o.value? 't').bind natural?).getD 8)
    let everywhere := (o.has 'a' || o.has 't') && !o.has '\x01'
    forEach o m 1 fun m _ text =>
      m.print (unlines (isCut text) ((linesOf text).map (unexpandLine width everywhere)))

/-! ### Parts in files -/

/-- The ending of the name of a part: letters or digits, counted on. -/
def partEnding (digits : Bool) (size n : Nat) : List Char :=
  let base := if digits then 10 else 26
  let first := if digits then '0' else 'a'
  (List.range size).map fun i =>
    Char.ofNat (first.toNat + n / Nat.pow base (size - 1 - i) % base)

/-- A list in parts of a size. -/
def chunks (size : Nat) : Nat → List α → List (List α)
  | 0, _ => []
  | fuel + 1, xs => if xs.isEmpty then [] else xs.take size :: chunks size fuel (xs.drop size)

/-- A text in a number of parts whose sizes differ by one at most. -/
def evenly (count : Nat) (text : List Char) : List (List Char) :=
  let size := text.length / count
  let longer := text.length % count
  (List.range count).map fun i =>
    (text.drop (i * size + min i longer)).take (size + if i < longer then 1 else 0)

/-- How a text is split, as the options say. -/
def splitting (o : Options) : Except String (List Char → List (List Char)) :=
  let invalid (what text : String) : Except String (List Char → List (List Char)) :=
    .error s!"invalid number of {what}: {Quoting.always text}"
  match o.value? 'b', o.value? 'l', o.value? 'n' with
  | some text, _, _ =>
    match size? text with
    | some (n + 1) => .ok fun chars => chunks (n + 1) (chars.length + 1) chars
    | _ => invalid "bytes" text
  | none, some text, _ =>
    match size? text with
    | some (n + 1) => .ok fun chars => (chunks (n + 1) (chars.length + 1) (pieces chars)).map List.flatten
    | _ => invalid "lines" text
  | none, none, some text =>
    match natural? text with
    | some (n + 1) => .ok (evenly (n + 1))
    | _ => invalid "chunks" text
  | none, none, none => .ok fun chars => (chunks 1000 (chars.length + 1) (pieces chars)).map List.flatten

def split : Program :=
  make ⟨"l:b:a:dn:e\x01::\x02:", [("lines", 'l'), ("bytes", 'b'), ("suffix-length", 'a'), ("number", 'n'),
    ("numeric-suffixes", '\x01'), ("additional-suffix", '\x02'), ("elide-empty-files", 'e')], false⟩ 1
    fun o m =>
    let operand := o.operands.headD "-"
    let start := o.operands.tail.headD "x"
    match splitting o, m.contents operand with
    | .error text, _ => m.noteFailure 1 text
    | _, .error e =>
      m.noteFailure 1 s!"cannot open {Quoting.always operand} for reading: {Machine.words e}"
    | .ok cut, .ok (text, m) =>
      let size := ((o.value? 'a').bind natural?).getD 2
      let digits := o.has 'd' || o.has '\x01'
      let ending := (o.value? '\x02').getD ""
      (cut text).zipIdx.foldl (fun m (part, i) =>
        let name := start ++ String.ofList (partEnding digits size i) ++ ending
        match m.writeFile (Machine.pathOf name) (Octet.toBytes part) with
        | .ok m => m
        | .error e => m.noteFailure 1 s!"{Quoting.ifNeeded name}: {Machine.words e}") m

end ScriptBundle.Shell.Tool
