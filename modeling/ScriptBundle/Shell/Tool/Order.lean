import ScriptBundle.Shell.Conversion
import ScriptBundle.Shell.Tool.Basic

/-!
# Tools on the order of lines

Sorting by keys, and what is done with lines that are in order: taking repeated ones together, and
comparing two files.
-/

namespace ScriptBundle.Shell.Tool

/-! ### Keys -/

/-- How two keys are compared. -/
structure LineOrder where
  blanks : Bool := false
  dictionary : Bool := false
  fold : Bool := false
  printable : Bool := false
  /-- The letter of a numeric order, if it is one. -/
  numeric : Option Char := none
  reverse : Bool := false
  deriving DecidableEq, Repr

/-- The part of a line that counts: from a character of a field to a character of a field. A character
zero at the end stands for the end of the field. -/
structure SortKey where
  field : Nat := 0
  char : Nat := 0
  endField : Option Nat := none
  endChar : Nat := 0
  endBlanks : Bool := false
  order : LineOrder := {}
  deriving DecidableEq, Repr

def isGap (c : Char) : Bool := c == ' ' || c == '\t' || c == '\n'

/-- What is left of a line behind so many fields. -/
def skipFields (tab : Option Char) : Nat → List Char → List Char
  | 0, text => text
  | n + 1, text =>
    match tab with
    | some t => skipFields tab n ((text.dropWhile (· ≠ t)).drop 1)
    | none => skipFields tab n ((text.dropWhile isGap).dropWhile (!isGap ·))

namespace SortKey

/-- The number of characters before the key. -/
def start (k : SortKey) (tab : Option Char) (line : List Char) : Nat :=
  let rest := skipFields tab k.field line
  let rest := if k.order.blanks then rest.dropWhile isGap else rest
  min line.length (line.length - rest.length + k.char)

/-- The number of characters up to the end of the key. -/
def stop (k : SortKey) (tab : Option Char) (line : List Char) : Nat :=
  match k.endField with
  | none => line.length
  | some field =>
    if k.endChar = 0 then
      match tab with
      | none => line.length - (skipFields none (field + 1) line).length
      | some t =>
        let rest := skipFields tab field line
        line.length - (rest.dropWhile (· ≠ t)).length
    else
      let rest := skipFields tab field line
      let rest := if k.endBlanks then rest.dropWhile isGap else rest
      min line.length (line.length - rest.length + k.endChar)

def of (k : SortKey) (tab : Option Char) (line : List Char) : List Char :=
  let a := k.start tab line
  (line.take (k.stop tab line)).drop a

end SortKey

/-- The decimal number that a text begins with: its sign, its whole digits, and those behind the
point. -/
def leadingNumber (text : List Char) : Bool × List Char × List Char :=
  let text := text.dropWhile isGap
  let (negative, body) := match text with
    | '-' :: rest => (true, rest)
    | rest => (false, rest)
  let front := (body.takeWhile Char.isDigit).dropWhile (· == '0')
  let back := match body.dropWhile Char.isDigit with
    | '.' :: rest => rest.takeWhile Char.isDigit
    | _ => []
  let back := (back.reverse.dropWhile (· == '0')).reverse
  (negative && !(front.isEmpty && back.isEmpty), front, back)

def compareNumbers (a b : List Char) : Ordering :=
  let (m, front, back) := leadingNumber a
  let (n, front', back') := leadingNumber b
  let size : Ordering :=
    match Ord.compare front.length front'.length with
    | .eq =>
      match compareOfLessAndEq front front' with
      | .eq => compareOfLessAndEq back back'
      | o => o
    | o => o
  match m, n with
  | false, false => size
  | true, true => size.swap
  | true, false => .lt
  | false, true => .gt

/-- The rank of the letter behind a number. -/
def unitRank (text : List Char) : Nat :=
  let rest := (text.dropWhile isGap).dropWhile fun c => c == '-' || c.isDigit || c == '.'
  match rest.head? with
  | some 'k' => 1
  | some c => (("KMGTPEZY".toList.findIdx? (· == c)).map (· + 1)).getD 0
  | none => 0

def compareHuman (a b : List Char) : Ordering :=
  let negative (t : List Char) := (leadingNumber t).1
  match negative a, negative b with
  | false, true => .gt
  | true, false => .lt
  | both, _ =>
    match Ord.compare (unitRank a) (unitRank b) with
    | .eq => compareNumbers a b
    | o => if both then o.swap else o

/-- The numbers of a general order; a text that is none comes first. -/
def compareGeneral (a b : List Char) : Ordering :=
  let value (t : List Char) := (Amount.read? t).map (·.1)
  let rank : Option Amount → Nat
    | none => 0
    | some .undefined => 1
    | some (.infinite true) => 2
    | some (.finite ..) => 3
    | some (.infinite false) => 4
  match value a, value b with
  | some (.finite m n d), some (.finite m' n' d') =>
    let x : Int := (if m then -1 else 1) * (n * d')
    let y : Int := (if m' then -1 else 1) * (n' * d)
    Ord.compare x y
  | x, y => Ord.compare (rank x) (rank y)

def monthRank (text : List Char) : Nat :=
  let name := String.ofList (((text.dropWhile isGap).take 3).map Char.toUpper)
  ((["JAN", "FEB", "MAR", "APR", "MAY", "JUN", "JUL", "AUG", "SEP", "OCT", "NOV", "DEC"].findIdx?
    (· == name)).map (· + 1)).getD 0

/-- Versions: runs of digits count as numbers. -/
def compareVersions : Nat → List Char → List Char → Ordering
  | 0, _, _ => .eq
  | fuel + 1, a, b =>
    let text (t : List Char) := t.takeWhile (!·.isDigit)
    let rank (c : Char) : Nat := if c = '~' then 0 else if c.isAlpha then c.toNat else c.toNat + 256
    let ranks (t : List Char) := (text t).map rank
    match compareOfLessAndEq (ranks a) (ranks b) with
    | .eq =>
      let a := a.drop (text a).length
      let b := b.drop (text b).length
      let digits (t : List Char) := (t.takeWhile Char.isDigit).dropWhile (· == '0')
      let rest (t : List Char) := t.dropWhile Char.isDigit
      match Ord.compare (digits a).length (digits b).length with
      | .eq =>
        match compareOfLessAndEq (digits a) (digits b) with
        | .eq => if a.isEmpty && b.isEmpty then .eq else compareVersions fuel (rest a) (rest b)
        | o => o
      | o => o
    | o => o

namespace LineOrder

def isPlain (o : LineOrder) : Bool := { o with reverse := false } == {}

def compare (o : LineOrder) (a b : List Char) : Ordering :=
  let cleaned (t : List Char) : List Char :=
    let t := if o.dictionary then t.filter fun c => c.isAlphanum || isGap c else t
    let t := if o.printable then t.filter Quoting.isPrintable else t
    if o.fold then t.map Char.toUpper else t
  let result :=
    match o.numeric with
    | some 'n' => compareNumbers a b
    | some 'h' => compareHuman a b
    | some 'g' => compareGeneral a b
    | some 'M' => Ord.compare (monthRank a) (monthRank b)
    | some _ => compareVersions (a.length + b.length + 2) a b
    | none => compareOfLessAndEq (cleaned a) (cleaned b)
  if o.reverse then result.swap else result

def add (o : LineOrder) (letter : Char) : Option LineOrder :=
  match letter with
  | 'b' => some { o with blanks := true }
  | 'd' => some { o with dictionary := true }
  | 'f' => some { o with fold := true }
  | 'i' => some { o with printable := true }
  | 'n' | 'g' | 'h' | 'M' | 'V' => some { o with numeric := some letter }
  | 'r' => some { o with reverse := true }
  | _ => none

end LineOrder

/-- Reads the order letters of a key. -/
def orderLetters (o : LineOrder) : List Char → LineOrder × List Char
  | [] => (o, [])
  | c :: rest =>
    match o.add c with
    | some o => orderLetters o rest
    | none => (o, c :: rest)

/-- Reads a key. -/
def sortKey (text : String) : Except String SortKey := do
  let chars := text.toList
  let count (chars : List Char) (what : String) : Except String (Nat × List Char) :=
    let digits := chars.takeWhile Char.isDigit
    if digits.isEmpty then
      .error s!"invalid number {what}: invalid count at start of {Quoting.always (String.ofList chars)}"
    else .ok ((Arithmetic.numeral 10 digits).1, chars.drop digits.length)
  let (field, rest) ← count chars "at field start"
  if field = 0 then
    throw s!"field number is zero: invalid field specification {Quoting.always text}"
  let (char, rest) ← match rest with
    | '.' :: more => count more "after '.'"
    | rest => pure (1, rest)
  if char = 0 then
    throw s!"character offset is zero: invalid field specification {Quoting.always text}"
  let (order, rest) := orderLetters {} rest
  let k : SortKey := { field := field - 1, char := char - 1, order }
  match rest with
  | [] => return k
  | ',' :: more =>
    let (endField, rest) ← count more "after ','"
    if endField = 0 then
      throw s!"field number is zero: invalid field specification {Quoting.always text}"
    let (endChar, rest) ← match rest with
      | '.' :: more => count more "after '.'"
      | rest => pure (0, rest)
    let (order', rest) := orderLetters { order with blanks := false } rest
    if !rest.isEmpty then
      throw s!"stray character in field spec: invalid field specification {Quoting.always text}"
    return { k with
      endField := some (endField - 1)
      endChar
      endBlanks := order'.blanks
      order := { order' with blanks := order.blanks } }
  | _ =>
    throw s!"stray character in field spec: invalid field specification {Quoting.always text}"

/-- Compares two lines by keys, and at last as they are. -/
def compareLines (keys : List SortKey) (tab : Option Char) (last : Option Bool) (a b : List Char) :
    Ordering :=
  let byKeys := keys.foldl (fun (o : Ordering) k =>
    match o with
    | .eq => k.order.compare (k.of tab a) (k.of tab b)
    | o => o) Ordering.eq
  match byKeys, last with
  | .eq, some reverse =>
    let o := compareOfLessAndEq a b
    if reverse then o.swap else o
  | o, _ => o

/-- The lines of a text that end in a character. -/
def linesUpTo (stop : Char) (text : List Char) : List (List Char) :=
  let parts := text.splitOn stop
  if parts.getLast? = some [] then parts.dropLast else parts

def sort : Program := fun exec m args =>
  let known : Known := ⟨"bcCdfghik:mMno:rRsS:t:T:uVz", [("ignore-leading-blanks", 'b'), ("check", 'c'),
    ("dictionary-order", 'd'), ("ignore-case", 'f'), ("general-numeric-sort", 'g'),
    ("human-numeric-sort", 'h'), ("key", 'k'), ("merge", 'm'), ("month-sort", 'M'),
    ("numeric-sort", 'n'), ("output", 'o'), ("reverse", 'r'), ("stable", 's'),
    ("field-separator", 't'), ("unique", 'u'), ("version-sort", 'V'), ("zero-terminated", 'z')], false⟩
  make known 2 (fun o m =>
    let global : LineOrder := o.found.foldl (fun g f => (g.add f.1).getD g) {}
    match (o.values 'k').mapM sortKey with
    | .error text => m.noteFailure 2 text
    | .ok keys =>
      let tab? : Except String (Option Char) :=
        match o.value? 't' with
        | none => .ok none
        | some text =>
          match text.toList with
          | [] => .error "empty tab"
          | [c] => .ok (some c)
          | ['\\', '0'] => .ok (some '\x00')
          | _ => .error s!"multi-character tab {Quoting.always text}"
      match tab? with
      | .error text => m.noteFailure 2 text
      | .ok tab =>
        let keys := keys.map fun k =>
          if k.order.isPlain && !k.order.reverse then { k with order := global, endBlanks := global.blanks || k.endBlanks }
          else k
        let keys := if keys.isEmpty && !global.isPlain then [{ order := global }] else keys
        let unique := o.has 'u'
        let last := if (unique && !keys.isEmpty) || o.has 's' then (if keys.isEmpty then some global.reverse else none)
          else some global.reverse
        let compare := compareLines keys tab last
        let checks := o.has 'c' || o.has 'C'
        let stop := if o.has 'z' then '\x00' else '\n'
        let failed := (inputs o).findSome? fun operand =>
          match m.contents operand with
          | .error e => some (operand, e)
          | .ok _ => none
        match failed, if checks then o.operands.tail else [] with
        | _, extra :: _ =>
          let letter := if o.has 'c' then 'c' else 'C'
          m.noteFailure 2 s!"extra operand {Quoting.always extra} not allowed with -{letter}"
        | some (operand, .isADirectory), _ =>
          let m := match o.value? 'o' with
            | some target =>
              match m.openPath target .appending with
              | .ok (_, m) => m
              | .error _ => m
            | none => m
          m.noteFailure 2 s!"read failed: {Quoting.ifNeeded operand}: Is a directory"
        | some (operand, e), _ =>
          let what := if checks then "open failed" else "cannot read"
          m.noteFailure 2 s!"{what}: {Quoting.ifNeeded operand}: {Machine.words e}"
        | none, [] =>
          let (texts, m) := (inputs o).foldl (fun (texts, m) operand =>
            match m.contents operand with
            | .ok (text, m) => (texts ++ [linesUpTo stop text], m)
            | .error _ => (texts, m)) (([] : List (List (List Char))), m)
          let lines := texts.flatten
          if checks then
            let pairs := lines.zip lines.tail
            let isWrong (p : List Char × List Char) :=
              let c := compare p.1 p.2
              c == .gt || (unique && c == .eq)
            match pairs.findIdx? isWrong with
            | none => m
            | some i =>
              if o.has 'C' then m.ends 1
              else
                let name := (inputs o).headD "-"
                m.noteFailure 1 s!"{name}:{i + 2}: disorder: {String.ofList (lines.getD (i + 1) [])}"
          else
            let inOrder (a b : List Char) : Bool := compare a b != .gt
            let sorted := if o.has 'm' then texts.foldl (fun a b => a.merge b inOrder) []
              else lines.mergeSort inOrder
            let kept := if !unique then sorted
              else
                (sorted.foldl (fun (out : List (List Char)) line =>
                  match out with
                  | top :: _ => if compare top line == .eq then out else line :: out
                  | [] => [line]) []).reverse
            let text := kept.flatMap (· ++ [stop])
            match o.value? 'o' with
            | none =>
              match (m.print text).writeOut with
              | (m, none) => m
              | (m, some e) =>
                let m := m.noteFailure 2 s!"fflush failed: 'standard output': {Machine.words e}"
                m.noteFailure 2 "write error"
            | some target =>
              match m.writeFile (Machine.pathOf target) (Octet.toBytes text) with
              | .ok m => m
              | .error e => m.noteFailure 2 s!"open failed: {Quoting.ifNeeded target}: {Machine.words e}")
    exec m args

/-! ### Repeated lines -/

/-- The runs of neighbours that are alike. -/
def groupRuns (same : α → α → Bool) (xs : List α) : List (List α) :=
  ((xs.foldl (fun (runs : List (List α)) x =>
    match runs with
    | (y :: run) :: more => if same ((y :: run).getLastD y) x then (x :: y :: run) :: more else [x] :: runs
    | runs => [x] :: runs) []).map List.reverse).reverse

def uniq : Program :=
  make ⟨"cdDf:is:uw:z", [("count", 'c'), ("repeated", 'd'), ("all-repeated", 'D'),
    ("skip-fields", 'f'), ("ignore-case", 'i'), ("skip-chars", 's'), ("unique", 'u'),
    ("check-chars", 'w')], false⟩ 1 fun o m =>
    match o.operands with
    | _ :: _ :: extra :: _ => m.noteUsage 1 s!"extra operand {Quoting.always extra}"
    | operands =>
      let operand := operands.headD "-"
      match m.contents operand with
      | .error .isADirectory => m.noteFailure 1 s!"error reading {Quoting.always operand}: Is a directory"
      | .error e => m.noteFailure 1 s!"{Quoting.ifNeeded operand}: {Machine.words e}"
      | .ok (text, m) =>
        let number (letter : Char) := (o.value? letter).bind natural?
        let key (line : List Char) : List Char :=
          let rest := (skipFields none ((number 'f').getD 0) line).drop ((number 's').getD 0)
          let rest := (number 'w').elim rest rest.take
          if o.has 'i' then rest.map Char.toLower else rest
        let runs := groupRuns (fun (a b : List Char × List Char) => a.2 == b.2)
          ((linesOf text).map fun line => (line, key line))
        let shown := runs.filter fun run =>
          let repeated := run.length > 1
          (!o.has 'u' || !repeated) && (!(o.has 'd' || o.has 'D') || repeated)
        let lines := shown.flatMap fun run =>
          let lines := run.map (·.1)
          if o.has 'D' then lines
          else if o.has 'c' then
            let n := toString run.length
            [List.replicate (7 - n.length) ' ' ++ n.toList ++ [' '] ++ lines.headD []]
          else lines.take 1
        let out := unlines false lines
        match operands with
        | [_, target] =>
          match m.writeFile (Machine.pathOf target) (Octet.toBytes out) with
          | .ok m => m
          | .error e => m.noteFailure 1 s!"{Quoting.ifNeeded target}: {Machine.words e}"
        | _ => m.print out

/-! ### Two files in order -/

/-- What is left of a file, with the line before it. -/
structure Side where
  rest : List (List Char)
  before : Option (List Char) := none
  /-- Whether it was seen to be out of order. -/
  isWrong : Bool := false

namespace Side

def isAscending (a b : Option (List Char)) : Bool :=
  match a, b with
  | some a, some b => compareOfLessAndEq a b != .gt
  | _, _ => true

/-- Goes on by a line. Its order with the next one counts once something was found in one file alone;
at the end of the file the last two lines are looked at again. -/
def step (s : Side) (counts : Bool) : Side :=
  match s.rest with
  | [] => s
  | line :: rest =>
    let fits := match rest with
      | next :: _ => isAscending (some line) (some next)
      | [] => isAscending s.before (some line)
    ⟨rest, some line, s.isWrong || (counts && !fits)⟩

end Side

/-- The lines of the first file alone, of the second alone, and of both, in order, and the files that
were seen to be out of order, as they are found. -/
def mergeSides : Nat → Bool → Side → Side → List (Nat × List Char) × Bool × Bool
  | 0, _, a, b => ([], a.isWrong, b.isWrong)
  | fuel + 1, counts, a, b =>
    let order : Ordering := match a.rest, b.rest with
      | [], _ => .gt
      | _, [] => .lt
      | x :: _, y :: _ => compareOfLessAndEq x y
    match order, a.rest, b.rest with
    | .eq, x :: _, _ =>
      let (rows, wrong) := mergeSides fuel counts (a.step counts) (b.step counts)
      ((3, x) :: rows, wrong)
    | .lt, x :: _, _ =>
      let (rows, wrong) := mergeSides fuel true (a.step true) b
      ((1, x) :: rows, wrong)
    | .gt, _, y :: _ =>
      let (rows, wrong) := mergeSides fuel true a (b.step true)
      ((2, y) :: rows, wrong)
    | _, _, _ => ([], a.isWrong, b.isWrong)

def comm : Program :=
  make ⟨"123z", [], false⟩ 1 fun o m =>
    match o.operands with
    | [] => m.noteUsage 1 "missing operand"
    | [a] => m.noteUsage 1 s!"missing operand after {Quoting.always a}"
    | _ :: _ :: extra :: _ => m.noteUsage 1 s!"extra operand {Quoting.always extra}"
    | [a, b] =>
      match m.contents a with
      | .error e => m.noteFailure 1 s!"{Quoting.ifNeeded a}: {Machine.words e}"
      | .ok (first, m) =>
        match m.contents b with
        | .error e => m.noteFailure 1 s!"{Quoting.ifNeeded b}: {Machine.words e}"
        | .ok (second, m) =>
          let as := linesOf first
          let bs := linesOf second
          let tabs (side : Nat) : Nat :=
            match side with
            | 1 => 0
            | 2 => if o.has '1' then 0 else 1
            | _ => (if o.has '1' then 0 else 1) + (if o.has '2' then 0 else 1)
          let wanted (side : Nat) := !o.has (Char.ofNat ('0'.toNat + side))
          let (rows, firstWrong, secondWrong) :=
            mergeSides (as.length + bs.length + 1) false { rest := as } { rest := bs }
          let rows := rows.filter fun (side, _) => wanted side
          let m := m.print (unlines false (rows.map fun (side, line) =>
            List.replicate (tabs side) '\t' ++ line))
          let m := if firstWrong then m.noteFailure 1 "file 1 is not in sorted order" else m
          let m := if secondWrong then m.noteFailure 1 "file 2 is not in sorted order" else m
          if firstWrong || secondWrong then m.noteFailure 1 "input is not in sorted order" else m

/-- A row of a file that is joined: its key, and all its fields. -/
structure Row where
  key : List Char
  fields : List (List Char)

/-- A field of the output: the key, or a field of one of the files. -/
inductive Field where
  | key
  | of (file : Nat) (index : Nat)

def field? (text : List Char) : Option Field :=
  match text with
  | ['0'] => some .key
  | '1' :: '.' :: digits => (natural? (String.ofList digits)).map fun n => .of 1 (n - 1)
  | '2' :: '.' :: digits => (natural? (String.ofList digits)).map fun n => .of 2 (n - 1)
  | _ => none

/-- The rows of two files by their keys, which are in order: partners, and rows without one. -/
def partners : Nat → List Row → List Row → List (Option Row × Option Row)
  | 0, _, _ => []
  | _, as, [] => as.map fun a => (some a, none)
  | _, [], bs => bs.map fun b => (none, some b)
  | fuel + 1, a :: as, b :: bs =>
    match compareOfLessAndEq a.key b.key with
    | .lt => (some a, none) :: partners fuel as (b :: bs)
    | .gt => (none, some b) :: partners fuel (a :: as) bs
    | .eq =>
      let sameA := (a :: as).takeWhile fun r => r.key == a.key
      let sameB := (b :: bs).takeWhile fun r => r.key == b.key
      (sameA.flatMap fun x => sameB.map fun y => (some x, some y)) ++
        partners fuel ((a :: as).drop sameA.length) ((b :: bs).drop sameB.length)

/-- Joins the lines of two files on a field. -/
def join : Program :=
  make ⟨"t:1:2:a:v:o:e:ij:", [("ignore-case", 'i')], false⟩ 1 fun o m =>
    match o.operands with
    | [] => m.noteUsage 1 "missing operand"
    | [a] => m.noteUsage 1 s!"missing operand after {Quoting.always a}"
    | _ :: _ :: extra :: _ => m.noteUsage 1 s!"extra operand {Quoting.always extra}"
    | [a, b] =>
      match m.contents a with
      | .error e => m.noteFailure 1 s!"{Quoting.ifNeeded a}: {Machine.words e}"
      | .ok (first, m) =>
        match m.contents b with
        | .error e => m.noteFailure 1 s!"{Quoting.ifNeeded b}: {Machine.words e}"
        | .ok (second, m) =>
          let tab := (o.value? 't').bind (·.toList.head?)
          let fieldsOf (line : List Char) : List (List Char) :=
            match tab with
            | some t => line.splitOn t
            | none => (line.splitOnP isGap).filter (!·.isEmpty)
          let place (letter : Char) := (((o.value? letter).or (o.value? 'j')).bind natural?).getD 1 - 1
          let rows (text : List Char) (k : Nat) : List Row :=
            (linesOf text).map fun line =>
              let fs := fieldsOf line
              let key := fs.getD k []
              ⟨if o.has 'i' then key.map Char.toLower else key, fs⟩
          let xs := rows first (place '1')
          let ys := rows second (place '2')
          let shows (side : String) := (o.values 'a' ++ o.values 'v').contains side
          let filling := ((o.value? 'e').getD "").toList
          let format := ((o.values 'o').flatMap fun text =>
            (text.toList.splitOnP fun c => c == ',' || c == ' ')).filterMap field?
          let keyOf (r : Row) (k : Nat) : List Char := r.fields.getD k []
          let shown (x y : Option Row) : List (List Char) :=
            let key := match x, y with
              | some r, _ => keyOf r (place '1')
              | none, some r => keyOf r (place '2')
              | none, none => []
            let others (r : Option Row) (k : Nat) := (r.map fun r => r.fields.eraseIdx k).getD []
            if format.isEmpty then key :: (others x (place '1') ++ others y (place '2'))
            else
              format.map fun
                | .key => key
                | .of file i =>
                  let value := ((if file = 1 then x else y).bind fun r => r.fields[i]?).getD []
                  if value.isEmpty then filling else value
          let lines := (partners (xs.length + ys.length + 1) xs ys).filterMap fun (x, y) =>
            let wanted := match x.isSome, y.isSome with
              | true, true => !o.has 'v'
              | true, false => shows "1"
              | _, _ => shows "2"
            if wanted then some ([tab.getD ' '].intercalate (shown x y)) else none
          m.print (unlines false lines)

/-! ### Orders from pairs -/

/-- An item with the number of those that must come before it, and those that come behind it. -/
structure Ranked where
  name : String
  before : Nat := 0
  behind : List String := []

/-- One more pair: the first comes before the second. -/
def addPair (items : List Ranked) (a b : String) : List Ranked :=
  let known (items : List Ranked) (name : String) : List Ranked :=
    if items.any (·.name == name) then items else items ++ [{ name := name }]
  let items := known (known items a) b
  if a = b then items
  else items.map fun r =>
    let r := if r.name = a then { r with behind := b :: r.behind } else r
    if r.name = b then { r with before := r.before + 1 } else r

/-- Takes the items one after the other from a row of those that nothing must come before. -/
def takeRanked : Nat → List String → List Ranked → List String → List String × List Ranked
  | 0, _, items, out => (out.reverse, items)
  | fuel + 1, row, items, out =>
    match row with
    | [] => (out.reverse, items)
    | name :: row =>
      let behind := ((items.find? (·.name == name)).map (·.behind)).getD []
      let items := items.filter (·.name != name)
      let (items, row) := behind.foldl (fun ((items, row) : List Ranked × List String) next =>
        let items := items.map fun r => if r.name = next then { r with before := r.before - 1 } else r
        let ready := items.any fun r => r.name == next && r.before == 0 && !row.contains next
        (items, if ready then row ++ [next] else row)) (items, row)
      takeRanked fuel row items (name :: out)

/-- All items; where they go round in a circle, the first of what is left is taken out of it. -/
def rankedAll (operand : String) : Nat → List Ranked → Machine → Machine
  | 0, _, m => m
  | fuel + 1, items, m =>
    if items.isEmpty then m
    else
      let ready := ((items.filter (·.before == 0)).map (·.name)).mergeSort fun a b => a ≤ b
      if ready.isEmpty then
        let names := (items.map (·.name)).mergeSort fun a b => a ≤ b
        let m := (m.complain s!"{m.name}: {operand}: input contains a loop:").ends 1
        let m := names.foldl (fun m name => m.complain s!"{m.name}: {name}") m
        let first := names.headD ""
        rankedAll operand fuel (items.map fun r => if r.name = first then { r with before := 0 } else r) m
      else
        let (out, items) := takeRanked (items.length + 1) ready items []
        rankedAll operand fuel items (m.printText (String.join (out.map (· ++ "\n"))))

def tsort : Program :=
  make ⟨"", [], false⟩ 1 fun o m =>
    match o.operands with
    | _ :: extra :: _ => m.noteUsage 1 s!"extra operand {Quoting.always extra}"
    | operands =>
      let operand := operands.headD "-"
      match m.contents operand with
      | .error e => m.noteFailure 1 s!"{Quoting.ifNeeded operand}: {Machine.words e}"
      | .ok (text, m) =>
        let isBlank (c : Char) : Bool := c == ' ' || c == '\t' || c == '\n'
        let words := ((text.splitOnP isBlank).filter fun (w : List Char) => !w.isEmpty).map String.ofList
        if words.length % 2 = 1 then
          m.noteFailure 1 s!"{Quoting.ifNeeded operand}: input contains an odd number of tokens"
        else
          let rec pairs : List String → List Ranked → List Ranked
            | a :: b :: rest, items => pairs rest (addPair items a b)
            | _, items => items
          let items := pairs words []
          rankedAll operand (items.length + 1) items m

/-- Gives lines in some order; the one in which they came is as good as any. -/
def shuf : Program :=
  make ⟨"ei:n:o:rz", [("echo", 'e'), ("input-range", 'i'), ("head-count", 'n'), ("output", 'o'), ("repeat", 'r'),
    ("zero-terminated", 'z')], false⟩ 1 fun o m =>
    let most := (o.value? 'n').map natural?
    if most == some none then
      let shown := Quoting.always ((o.value? 'n').getD "")
      m.noteFailure 1 s!"invalid line count: {shown}"
    else
      let (lines, m) : List String × Machine :=
        match o.value? 'i' with
        | some range =>
          let (low, high) := (String.ofList (range.toList.takeWhile (· ≠ '-')),
            String.ofList ((range.toList.dropWhile (· ≠ '-')).drop 1))
          let (a, b) := ((natural? low).getD 0, (natural? high).getD 0)
          ((List.range (b + 1 - a)).map fun i => toString (a + i), m)
        | none =>
          if o.has 'e' then (o.operands, m)
          else
            let (text, m) := gather o m 1
            ((linesOf text).map String.ofList, m)
      let lines := match most.bind fun n => n with
        | some n => lines.take n
        | none => lines
      m.printText (String.join (lines.map (· ++ "\n")))

end ScriptBundle.Shell.Tool
