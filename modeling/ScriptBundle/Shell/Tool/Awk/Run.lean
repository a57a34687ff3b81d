import ScriptBundle.Shell.Tool.Awk.Reader
import ScriptBundle.Shell.Tool.Awk.Record

/-!
# Running a program on records

Expressions have values, statements have effects. A statement that leaves a loop, a function or the
program stops what runs, up to where it is caught. Each call and each round of a loop uses fuel.
-/

namespace ScriptBundle.Shell.Tool.Awk

namespace Run

/-! ### Formats -/

/-- The whole number that is written for a number. -/
def wholeOf (n : Num) : Int :=
  match n with
  | .finite negative a d =>
    let i := Num.signed negative (a / d)
    max (-9223372036854775808) (min i 18446744073709551615)
  | .infinite negative => if negative then -9223372036854775808 else 9223372036854775807
  | .undefined _ => -9223372036854775808

/-- The flags, the width and the precision behind a percent sign; a star is a number of its own. -/
structure Spec where
  flags : List Char
  width : Option (Option Nat)
  precision : Option (Option Nat)
  letter : Char
  rest : List Char

def readSpec (text : List Char) : Option Spec :=
  let flags := text.takeWhile fun c => "-+ #0".toList.contains c
  let text := text.drop flags.length
  let amount (text : List Char) : Option (Option Nat) × List Char :=
    match text with
    | '*' :: rest => (some none, rest)
    | text =>
      let digits := text.takeWhile Char.isDigit
      ((String.ofList digits).toNat?.map some, text.drop digits.length)
  let (width, text) := amount text
  let (precision, text) :=
    match text with
    | '.' :: rest =>
      let (p, rest) := amount rest
      (some (p.getD (some 0)), rest)
    | text => (none, text)
  let text := text.dropWhile fun c => "hlLqjzt".toList.contains c
  match text with
  | letter :: rest => some ⟨flags, width, precision, letter, rest⟩
  | [] => none

/-- An error while the program runs. -/
def failure (text : String) : Run α := do
  let name ← globalText "FILENAME"
  let fnr ← globalText "FNR"
  let nr ← globalText "NR"
  fail s!"run time error: {text}\n\tFILENAME=\"{name}\" FNR={fnr} NR={nr}"

/-- The next of some values. -/
def takeValue (caller whole : String) : List Value → Except String (Value × List Value)
  | v :: rest => .ok (v, rest)
  | [] => .error s!"not enough arguments passed to {caller}(\"{whole}\")"

/-- The width or the precision, which may be one of the values. -/
def takeAmount (caller whole : String) (given : Option (Option Nat)) (args : List Value) :
    Except String (Option Int × List Value) :=
  match given with
  | some none => do
    let (v, args) ← takeValue caller whole args
    return (v.toNum.toInt?, args)
  | some (some n) => .ok (some n, args)
  | none => .ok (none, args)

/-- One value as a conversion writes it. -/
def converted (c : Conversion) (letter : Char) (v : Value) (text : List Char) : List Char :=
  if letter == 'd' || letter == 'i' then c.integer (wholeOf v.toNum)
  else if "ouxX".toList.contains letter then
    let i := wholeOf v.toNum
    c.natural letter (if i < 0 then (i + 18446744073709551616).toNat else i.toNat)
  else if letter == 'c' then
    let single (n : Num) : List Char := c.text [Char.ofNat (wholeOf n % 256).toNat]
    match v with
    | .num n => single n
    | .both _ n => single n
    | _ => c.text [text.headD '\x00']
  else if letter == 's' then c.text text
  else v.toNum.shown c letter

/-- The conversion that a percent sign begins, filled, and what is left of the format and the values. -/
def formatOne (caller whole : String) (number : Nat) (spec : Spec) (args : List Value) :
    Run (Except String (List Char × List Value)) := do
  let taken : Except String (Conversion × Value × List Value) := do
    let (width, args) ← takeAmount caller whole spec.width args
    let (precision, args) ← takeAmount caller whole spec.precision args
    let (v, args) ← takeValue caller whole args
    let width := width.getD 0
    let c : Conversion :=
      { flags := if width < 0 then '-' :: spec.flags else spec.flags
        width := width.natAbs
        precision := precision.map Int.toNat }
    if "diouxXcseEfFgG".toList.contains spec.letter then return (c, v, args)
    else throw s!"improper conversion(number {number}) in {caller}(\"{whole}\")"
  match taken with
  | .error text => return .error text
  | .ok (c, v, args) => return .ok (converted c spec.letter v (← textOf v).toList, args)

/-- A text made by a format from values. After an error there is the text up to it. -/
def format (caller whole : String) : Nat → Nat → List Char → List Value → Run (List Char × Option String)
  | 0, _, _, _ => return ([], none)
  | fuel + 1, number, text, args => do
    let before (front : List Char) (r : List Char × Option String) : List Char × Option String :=
      (front ++ r.1, r.2)
    match text with
    | [] => return ([], none)
    | '%' :: '%' :: rest => return before ['%'] (← format caller whole fuel number rest args)
    | '%' :: rest =>
      match readSpec rest with
      | none => return ('%' :: rest, none)
      | some spec =>
        match ← formatOne caller whole number spec args with
        | .error e => return ([], some e)
        | .ok (shown, args) => return before shown (← format caller whole fuel (number + 1) spec.rest args)
    | c :: rest => return before [c] (← format caller whole fuel number rest args)

/-! ### Replacing -/

/-- A replacement: a sign for the match, or a character. -/
inductive Piece where
  | found
  | char (c : Char)

def readPieces : List Char → List Piece
  | '\\' :: '&' :: rest => .char '&' :: readPieces rest
  | '\\' :: '\\' :: '&' :: rest => .char '\\' :: .found :: readPieces rest
  | '&' :: rest => .found :: readPieces rest
  | c :: rest => .char c :: readPieces rest
  | [] => []

def filled (pieces : List Piece) (found : List Char) : List Char :=
  pieces.flatMap fun
    | .found => found
    | .char c => [c]

/-- Replaces matches from a position on, and counts them. An empty match right behind another one does
not count. -/
def replaceMatches (r : Regex) (pieces : List Piece) (everywhere : Bool) (text : Regex.Text) :
    Nat → Nat → Option Nat → Nat → List (List Char) → List Char × Nat
  | 0, here, _, count, out => ((text.slice ⟨here, text.size⟩ :: out).reverse.flatten, count)
  | fuel + 1, here, last, count, out =>
    match r.find? text here with
    | none => ((text.slice ⟨here, text.size⟩ :: out).reverse.flatten, count)
    | some found =>
      let e := found.whole
      let before := text.slice ⟨here, e.start⟩
      let next := text.slice ⟨e.stop, min (e.stop + 1) text.size⟩
      if e.stop = e.start && last == some e.start then
        if e.start ≥ text.size then ((before :: out).reverse.flatten, count)
        else replaceMatches r pieces everywhere text fuel (e.stop + 1) none count (next :: before :: out)
      else
        let out := filled pieces (text.slice e) :: before :: out
        if !everywhere then ((text.slice ⟨e.stop, text.size⟩ :: out).reverse.flatten, count + 1)
        else if e.stop = e.start then
          if e.start ≥ text.size then (out.reverse.flatten, count + 1)
          else replaceMatches r pieces everywhere text fuel (e.stop + 1) none (count + 1) (next :: out)
        else replaceMatches r pieces everywhere text fuel e.stop (some e.stop) (count + 1) out

/-! ### Expressions -/

/-- A part of a text by its first character and its length. -/
def part (text : List Char) (start : Num) (length : Option Num) : List Char :=
  let rounded (n : Num) : Num := (Num.add n (Num.round false 1 2))
  let floor (n : Num) : Int :=
    match n with
    | .finite negative a d => Num.signed negative a / d
    | .infinite negative => if negative then -1000000000 else 1000000000
    | .undefined _ => -1000000000
  let first := floor (rounded start)
  let stop : Int :=
    match length with
    | none => 1000000000
    | some n => first + floor (rounded n)
  let origin := max first 1
  if stop ≤ origin then [] else (text.drop (origin - 1).toNat).take (stop - origin).toNat

def indexOf (text small : List Char) : Nat :=
  match (List.range (text.length + 1)).find? fun i => small.isPrefixOf (text.drop i) with
  | some i => i + 1
  | none => 0

def arith (op : Char) (a b : Num) : Num :=
  match op with
  | '+' => Num.add a b
  | '-' => Num.sub a b
  | '*' => Num.mul a b
  | '/' => Num.div a b
  | '%' => Num.mod a b
  | _ => Num.pow a b

def compareValues (op : String) (a b : Value) : Run Bool := do
  match a.counted?, b.counted? with
  | some x, some y =>
    return match op with
      | "<" => Num.less x y
      | "<=" => Num.less x y || Num.same x y
      | "==" => Num.same x y
      | "!=" => !Num.same x y
      | ">" => Num.less y x
      | _ => Num.less y x || Num.same x y
  | _, _ =>
    let x ← textOf a
    let y ← textOf b
    return match op with
      | "<" => decide (x < y)
      | "<=" => !decide (y < x)
      | "==" => x == y
      | "!=" => x != y
      | ">" => decide (y < x)
      | _ => !decide (x < y)

/-- The next of a fixed row of numbers from zero to one. -/
def draw : Run Num := modifyGet fun s =>
  let n := ((s.draws + 1) * 1103515245 + 12345) % 2147483648
  (Num.round false n 2147483648, { s with draws := n })

def depthLimit : Nat := 1000

/-- Whether a text holds a match. -/
def isMatch (r text : String) : Run Bool := return (← regexOf r).occursIn text.toList

mutual

def eval : Nat → Expr → Run Value
  | 0, _ => fail "program limit exceeded"
  | fuel + 1, e => do
    match e with
    | .num n => return .num n
    | .str s => return .str s
    | .regex text => return .ofBool (← isMatch text (← textOf (← record)))
    | .name x => valueOf x
    | .group e => eval fuel e
    | .field e =>
      match (← eval fuel e).toNum.toInt? with
      | some n =>
        if n < 0 then failure s!"negative field index ${n}" else field n.toNat
      | none => return .unset
    | .item x keys =>
      let (key, isCount) ← keyOf fuel keys
      item (← tableOf x) key isCount
    | .store op target value =>
      match op with
      | none =>
        match target with
        | .item x keys =>
          let (key, isCount) ← keyOf fuel keys
          let v ← eval fuel value
          putItem (← tableOf x) key isCount v
          return v
        | target =>
          let v ← eval fuel value
          assign fuel target v
          return v
      | some op =>
        change fuel target fun old => do
          let v := (← eval fuel value).toNum
          let result : Value := .num (arith op old.toNum v)
          return (result, result)
    | .choice c a b => if (← eval fuel c).isTrue then eval fuel a else eval fuel b
    | .and a b => if (← eval fuel a).isTrue then return .ofBool (← eval fuel b).isTrue else return .ofBool false
    | .or a b => if (← eval fuel a).isTrue then return .ofBool true else return .ofBool (← eval fuel b).isTrue
    | .not a => return .ofBool !(← eval fuel a).isTrue
    | .neg a => return .num (← eval fuel a).toNum.neg
    | .plus a => return .num (← eval fuel a).toNum
    | .arith op a b =>
      let x := (← eval fuel a).toNum
      let y := (← eval fuel b).toNum
      return .num (arith op x y)
    | .concat a b =>
      let x ← textOf (← eval fuel a)
      let y ← textOf (← eval fuel b)
      return .str (x ++ y)
    | .compare op a b =>
      let x ← eval fuel a
      let y ← eval fuel b
      return .ofBool (← compareValues op x y)
    | .isMatch negated a b =>
      let x ← textOf (← eval fuel a)
      let r ← pattern fuel b
      return .ofBool ((← isMatch r x) != negated)
    | .member keys x =>
      let (key, _) ← keyOf fuel keys
      return .ofBool (← hasItem (← tableOf x) key)
    | .step isNew up target =>
      change fuel target fun old => do
        let before := old.toNum
        let after := arith (if up then '+' else '-') before (Num.ofNat 1)
        return (.num after, .num (if isNew then after else before))
    | .call f args => call fuel f args
    | .builtin f args => builtin fuel f args
    | .getline source place target => getline fuel source place target

/-- The text of what is matched against. -/
def pattern : Nat → Expr → Run String
  | 0, _ => fail "program limit exceeded"
  | fuel + 1, e => do
    match e with
    | .regex text => return text
    | .group (.regex text) => return text
    | e => textOf (← eval fuel e)

/-- The key that some values make, and whether it is a whole number. -/
def keyOf : Nat → List Expr → Run (String × Bool)
  | 0, _ => fail "program limit exceeded"
  | fuel + 1, keys => do
    match keys with
    | [e] =>
      let v ← eval fuel e
      match v with
      | .num n => return (← textOf v, n.isWhole)
      | v => return (← textOf v, false)
    | keys =>
      let parts ← evalAll fuel keys
      return (String.intercalate (← globalText "SUBSEP") (← parts.mapM textOf), false)

def evalAll : Nat → List Expr → Run (List Value)
  | 0, _ => fail "program limit exceeded"
  | fuel + 1, es => do
    match es with
    | [] => return []
    | e :: rest =>
      let v ← eval fuel e
      return v :: (← evalAll fuel rest)

/-- Stores a value in its place. -/
def assign : Nat → Expr → Value → Run Unit
  | 0, _, _ => fail "program limit exceeded"
  | fuel + 1, target, v => do
    match target with
    | .name x => setVariable x v
    | .field e =>
      match (← eval fuel e).toNum.toInt? with
      | some n =>
        if n < 0 then failure s!"negative field index ${n}" else setField n.toNat v
      | none => return
    | .item x keys =>
      let (key, isCount) ← keyOf fuel keys
      putItem (← tableOf x) key isCount v
    | .group e => assign fuel e v
    | _ => return

/-- Changes the value in a place, of which the parts are found once. -/
def change : Nat → Expr → (Value → Run (Value × Value)) → Run Value
  | 0, _, _ => fail "program limit exceeded"
  | fuel + 1, target, f => do
    match target with
    | .field e =>
      match (← eval fuel e).toNum.toInt? with
      | some n =>
        if n < 0 then failure s!"negative field index ${n}"
        else
          let (v, result) ← f (← field n.toNat)
          setField n.toNat v
          return result
      | none => return .unset
    | .item x keys =>
      let (key, isCount) ← keyOf fuel keys
      let id ← tableOf x
      let (v, result) ← f (← item id key isCount)
      putItem id key isCount v
      return result
    | .name x =>
      let (v, result) ← f (← valueOf x)
      setVariable x v
      return result
    | .group e => change fuel e f
    | _ => return .unset

/-- What a parameter begins with. A variable that holds nothing yet is given as it is. -/
def argument : Nat → Expr → Run Cell
  | 0, _ => fail "program limit exceeded"
  | fuel + 1, e => do
    match e with
    | .name x =>
      if x == "NF" then return .value (← valueOf x) else cellOf x
    | e => return .value (← eval fuel e)

def argumentList : Nat → List Expr → Run (List Cell)
  | 0, _ => fail "program limit exceeded"
  | fuel + 1, es => do
    match es with
    | [] => return []
    | e :: rest =>
      let c ← argument fuel e
      return c :: (← argumentList fuel rest)

def call : Nat → String → List Expr → Run Value
  | 0, _, _ => fail "program limit exceeded"
  | fuel + 1, f, args => do
    match (← get).functions.find? (·.name == f) with
    | none => fail s!"line 1: function {f} never defined"
    | some g =>
      let given ← argumentList fuel args
      let s ← get
      if s.depth ≥ depthLimit then fail "function call nesting too deep"
      else
        let missing := (List.range (g.params.length - given.length)).map fun i => Cell.fresh (s.nextTable + i)
        let frame := g.params.zip (given ++ missing)
        set { s with frame, depth := s.depth + 1, nextTable := s.nextTable + missing.length }
        let result ← tryCatch (do
            stmts fuel g.body
            return Value.unset)
          fun
            | .giveBack v => return v
            | h => throw h
        modify fun t => { t with frame := s.frame, depth := s.depth }
        return result

def builtin : Nat → String → List Expr → Run Value
  | 0, _, _ => fail "program limit exceeded"
  | fuel + 1, f, args => do
    match f, args with
    | "length", [.name x] =>
      let cell ← if x == "NF" then pure (Cell.value .unset) else cellOf x
      match cell with
      | .table id => return .ofNat (← table id).items.size
      | .fresh id =>
        if (← get).tables.contains id then return .ofNat (← table id).items.size
        else return .ofNat (← textOf (← valueOf x)).length
      | _ => return .ofNat (← textOf (← valueOf x)).length
    | "split", s :: .name x :: more =>
      let text := (← textOf (← eval fuel s)).toList
      let splitter ← match more with
        | .regex r :: _ => if r.isEmpty then pure Splitter.each else do pure (Splitter.matches (← regexOf r))
        | e :: _ => splitterOf (← textOf (← eval fuel e))
        | [] => splitterOf (← globalText "FS")
      let pieces := splitter.split text
      let id ← tableOf x
      putTable id {}
      for (piece, i) in pieces.zipIdx do
        putItem id (toString (i + 1)) true (Value.ofInput piece)
      return .ofNat pieces.length
    | "sub", r :: new :: more => substitute fuel false r new more
    | "gsub", r :: new :: more => substitute fuel true r new more
    | "match", [s, r] =>
      let text := (← textOf (← eval fuel s)).toList.toArray
      let r ← regexOf (← pattern fuel r)
      let (start, length) : Int × Int := match r.find? text 0 with
        | some found => (found.whole.start + 1, (found.whole.stop : Int) - found.whole.start)
        | none => (0, -1)
      setVariable "RSTART" (.num (Num.ofInt start))
      setVariable "RLENGTH" (.num (Num.ofInt length))
      return .num (Num.ofInt start)
    | f, args =>
      let values ← evalAll fuel args
      let number (i : Nat) : Num := (values.getD i .unset).toNum
      let text (i : Nat) : Run (List Char) := return (← textOf (values.getD i .unset)).toList
      match f with
      | "length" => if values.isEmpty then return .ofNat (← textOf (← record)).length else return .ofNat (← text 0).length
      | "substr" =>
        return .str (String.ofList (part (← text 0) (number 1) (if values.length > 2 then some (number 2) else none)))
      | "index" => return .ofNat (indexOf (← text 0) (← text 1))
      | "sprintf" =>
        match values with
        | [] => fail "line 1: not enough arguments in call to sprintf"
        | v :: rest =>
          let whole ← textOf v
          match ← format "sprintf" whole (whole.length + 1) 1 whole.toList rest with
          | (shown, none) => return .str (String.ofList shown)
          | (_, some e) => failure e
      | "tolower" => return .str (String.ofList ((← text 0).map Char.toLower))
      | "toupper" => return .str (String.ofList ((← text 0).map Char.toUpper))
      | "int" => return .num (number 0).truncate
      | "sqrt" => return .num (number 0).sqrt
      | "exp" => return .num (number 0).exp
      | "log" => return .num (number 0).log
      | "sin" => return .num (number 0).sin
      | "cos" => return .num (number 0).cos
      | "atan2" => return .num (Num.angle (number 0) (number 1))
      | "rand" => return .num (← draw)
      | "srand" =>
        let old := (← get).seed
        let new := if values.isEmpty then Num.ofNat 1 else number 0
        modify fun s => { s with seed := new, draws := ((new.toInt?).getD 0).natAbs }
        return .num old
      | "system" =>
        flush
        let command := String.ofList (← text 0)
        modifyGet fun s =>
          let (machine, status) := runCommand s.machine s.exec command
          (.ofNat status, { s with machine })
      | "close" => return .num (Num.ofInt (← close (String.ofList (← text 0))))
      | "fflush" =>
        flush
        return .ofNat 0
      | _ => return .ofNat 0

/-- Replaces in a place what matches, and gives the number of replacements. -/
def substitute : Nat → Bool → Expr → Expr → List Expr → Run Value
  | 0, _, _, _, _ => fail "program limit exceeded"
  | fuel + 1, everywhere, r, new, more => do
    let r ← regexOf (← pattern fuel r)
    let pieces := readPieces (← textOf (← eval fuel new)).toList
    let target := more.headD (.field (.num Num.zero))
    let text := (← textOf (← eval fuel target)).toList
    let (out, count) := replaceMatches r pieces everywhere text.toArray (text.length + 2) 0 none 0 []
    if count > 0 then assign fuel target (.str (String.ofList out))
    return .ofNat count

def getline : Nat → Source → Option Expr → Option Expr → Run Value
  | 0, _, _, _ => fail "program limit exceeded"
  | fuel + 1, source, place, target => do
    let found ← match source, place with
      | .main, _ => do pure (some (← nextRecord 10000))
      | .file, some e => readFrom (← textOf (← eval fuel e)) false
      | .command, some e => readFrom (← textOf (← eval fuel e)) true
      | _, none => pure none
    match found with
    | none => return .num (Num.ofInt (-1))
    | some none => return .ofNat 0
    | some (some text) =>
      if source == .main then
        count "NR"
        count "FNR"
      let v := Value.ofInput text
      match target with
      | some t => assign fuel t v
      | none => setRecord v
      return .ofNat 1

def stmts : Nat → List Stmt → Run Unit
  | 0, _ => fail "program limit exceeded"
  | fuel + 1, ss => do
    match ss with
    | [] => return
    | s :: rest =>
      stmt fuel s
      stmts fuel rest

/-- Prints to where a statement says. -/
def send : Nat → Outlet → List Char → Run Unit
  | 0, _, _ => fail "program limit exceeded"
  | fuel + 1, place, text => do
    match place with
    | .output => modify fun s => { s with machine := s.machine.print text }
    | .file e => sendTo (← textOf (← eval fuel e)) false false text
    | .append e => sendTo (← textOf (← eval fuel e)) true false text
    | .command e => sendTo (← textOf (← eval fuel e)) false true text

/-- Runs the body of a loop, and tells whether the loop goes on. -/
def round : Nat → List Stmt → Run Bool
  | 0, _ => fail "program limit exceeded"
  | fuel + 1, body =>
    tryCatch (do
      stmts fuel body
      return true) fun
      | .leave => return false
      | .again => return true
      | h => throw h

def whileLoop : Nat → Expr → List Stmt → List Stmt → Run Unit
  | 0, _, _, _ => fail "program limit exceeded"
  | fuel + 1, c, next, body => do
    if (← eval fuel c).isTrue then
      if ← round fuel body then
        stmts fuel next
        whileLoop fuel c next body

def forKeys : Nat → String → Nat → List String → List Stmt → Run Unit
  | 0, _, _, _, _ => fail "program limit exceeded"
  | fuel + 1, x, id, keys, body => do
    match keys with
    | [] => return
    | key :: rest =>
      setVariable x (.str key)
      if ← round fuel body then forKeys fuel x id rest body

def stmt : Nat → Stmt → Run Unit
  | 0, _ => fail "program limit exceeded"
  | fuel + 1, s => do
    match s with
    | .expr e =>
      let _ ← eval fuel e
    | .print args place =>
      let values ← if args.isEmpty then (do pure [← record]) else evalAll fuel args
      let parts ← values.mapM printedText
      let text := String.intercalate (← globalText "OFS") parts ++ (← globalText "ORS")
      send fuel place text.toList
    | .printf args place =>
      let values ← evalAll fuel args
      match values with
      | [] => return
      | v :: rest =>
        let whole ← textOf v
        let (shown, error) ← format "printf" whole (whole.length + 1) 1 whole.toList rest
        send fuel place shown
        match error with
        | some e => failure e
        | none => return
    | .ifThen c a b => if (← eval fuel c).isTrue then stmts fuel a else stmts fuel b
    | .whileDo c body => whileLoop fuel c [] body
    | .doWhile body c =>
      if ← round fuel body then whileLoop fuel c [] body
    | .forDo start c next body =>
      stmts fuel start
      whileLoop fuel (c.getD (.num (Num.ofNat 1))) next body
    | .forIn x array body =>
      let id ← tableOf array
      forKeys fuel x id (← table id).keys body
    | .block body => stmts fuel body
    | .next => throw .next
    | .nextFile => throw .nextFile
    | .leave => throw .leave
    | .again => throw .again
    | .exit e =>
      match e with
      | some e =>
        let n := ((← eval fuel e).toNum.toInt?).getD 0
        modify fun s => { s with status := (n % 256).toNat }
      | none => pure ()
      throw .exit
    | .giveBack e =>
      match e with
      | some e => throw (.giveBack (← eval fuel e))
      | none => throw (.giveBack .unset)
    | .delete x keys =>
      let (key, _) ← keyOf fuel keys
      dropItem (← tableOf x) key
    | .clear x => putTable (← tableOf x) {}

end

/-! ### Rules -/

/-- Whether a pattern holds for the record. -/
def applies (fuel : Nat) (p : Pattern) : Run Bool := do
  match p with
  | .always => return true
  | .holds e => return (← eval fuel e).isTrue
  | .range number a b =>
    if (← get).ranges.contains number then
      if (← eval fuel b).isTrue then modify fun s => { s with ranges := s.ranges.erase number }
      return true
    else if (← eval fuel a).isTrue then
      if !(← eval fuel b).isTrue then modify fun s => { s with ranges := number :: s.ranges }
      return true
    else return false

def runRules (fuel : Nat) : List Rule → Run Unit
  | [] => return
  | rule :: rest => do
    if ← applies fuel rule.pattern then
      match rule.action with
      | some body => stmts fuel body
      | none => stmt fuel (.print [] .output)
    runRules fuel rest

def records (fuel : Nat) (rules : List Rule) : Nat → Run Unit
  | 0 => return
  | rounds + 1 => do
    match ← nextRecord 10000 with
    | none => return
    | some text =>
      setRecord (Value.ofInput text)
      count "NR"
      count "FNR"
      tryCatch (runRules fuel rules) fun
        | .next => return
        | .nextFile => modify fun s => { s with main := none }
        | h => throw h
      records fuel rules rounds

def runAll (fuel : Nat) : List (List Stmt) → Run Unit
  | [] => return
  | body :: rest => do
    stmts fuel body
    runAll fuel rest

/-- The whole program: what is done first, for each record, and last. -/
def program (fuel : Nat) (script : Script) : Run Unit := do
  let main : Run Unit := do
    runAll fuel script.first
    if !script.rules.isEmpty || !script.last.isEmpty then records fuel script.rules fuel
  tryCatch main fun
    | .exit => return
    | h => throw h
  tryCatch (runAll fuel script.last) fun
    | .exit => return
    | h => throw h

end Run

/-- The rounds and calls after which a program is given up. -/
def fuelLimit : Nat := 100000000

/-- Runs a program with some arguments. -/
def Script.run (script : Script) (exec : Exec) (m : Machine) (separator : Option String)
    (settings : List (String × String)) (args : List String) : Machine :=
  let start : State := { machine := m, exec, functions := script.functions }
  let table (entries : List (String × String)) : Run Nat := do
    let id := (← get).nextTable
    modify fun s => { s with nextTable := id + 1 }
    for (key, value) in entries do
      Run.putItem id key false (Value.ofInput value.toList)
    return id
  let work : Run Unit := do
    for (x, v) in [("FS", separator.getD " "), ("OFS", " "), ("ORS", "\n"), ("RS", "\n"), ("SUBSEP", "\x1c"),
        ("CONVFMT", "%.6g"), ("OFMT", "%.6g"), ("FILENAME", "")] do
      Run.putCell x (.value (.str v))
    for x in ["NR", "FNR"] do
      Run.putCell x (.value (.ofNat 0))
    let words := m.name :: args
    Run.putCell "ARGC" (.value (.ofNat words.length))
    Run.putCell "ARGV" (.table (← table (words.zipIdx.map fun (word, i) => (toString i, word))))
    Run.putCell "ENVIRON" (.table (← table m.environment))
    for (x, v) in settings do
      Run.assignSetting x v
    Run.program fuelLimit script
  let ended (s : State) : Machine :=
    match Run.closeAll.run s with
    | .ok _ s => s.machine.ends s.status
    | .error _ s => s.machine.ends s.status
  match work.run start with
  | .ok _ s => ended s
  | .error _ s => ended s

/-- What the command line of `awk` says. -/
structure Setup where
  separator : Option String := none
  settings : List (String × String) := []
  files : List String := []
  rest : List String := []

def readArguments : Nat → Setup → List String → Except String Setup
  | 0, s, args => .ok { s with rest := args }
  | fuel + 1, s, args =>
    let valued (letter : Char) (inner : List Char) (rest : List String) : Except String Setup :=
      let value? : Option (String × List String) :=
        if inner.isEmpty then
          match rest with
          | value :: rest => some (value, rest)
          | [] => none
        else some (String.ofList inner, rest)
      match value? with
      | none => .error s!"option -{letter} lacks argument"
      | some (value, rest) =>
        match letter with
        | 'F' => readArguments fuel { s with separator := some (unescaped value.toList) } rest
        | 'f' => readArguments fuel { s with files := s.files ++ [value] } rest
        | _ =>
          match Run.setting? value with
          | some setting => readArguments fuel { s with settings := s.settings ++ [setting] } rest
          | none => .error s!"improper assignment: -v {value}"
    match args with
    | [] => .ok s
    | arg :: rest =>
      match arg.toList with
      | ['-', '-'] => .ok { s with rest }
      | '-' :: 'F' :: inner => valued 'F' inner rest
      | '-' :: 'f' :: inner => valued 'f' inner rest
      | '-' :: 'v' :: inner => valued 'v' inner rest
      | '-' :: _ :: _ => .error s!"not an option: {arg}"
      | _ => .ok { s with rest := args }

/-- How the program is to be called. -/
def usage : List String := [
  "Usage: mawk [Options] [Program] [file ...]",
  "",
  "Program:",
  "    The -f option value is the name of a file containing program text.",
  "    If no -f option is given, a \"--\" ends option processing; the following",
  "    parameters are the program text.",
  "",
  "Options:",
  "    -f program-file  Program  text is read from file instead of from the",
  "                     command-line.  Multiple -f options are accepted.",
  "    -F value         sets the field separator, FS, to value.",
  "    -v var=value     assigns value to program variable var.",
  "    --               unambiguous end of options.",
  "",
  "    Implementation-specific options are prefixed with \"-W\".  They can be",
  "    abbreviated:",
  "",
  "    -W version       show version information and exit.",
  "    -W compat        pre-POSIX 2001.",
  "    -W dump          show assembler-like listing of program and exit.",
  "    -W help          show this message and exit.",
  "    -W interactive   set unbuffered output, line-buffered input.",
  "    -W exec file     use file as program as well as last option.",
  "    -W posix         stricter POSIX checking.",
  "    -W random=number set initial random seed.",
  "    -W sprintf=number adjust size of sprintf buffer.",
  "    -W usage         show this message and exit."]

end Awk

def awk : Program := fun exec m args =>
  let m := m.ends 0
  match Awk.readArguments (args.length + 1) {} args with
  | .error text => m.noteFailure 2 text
  | .ok s =>
    let texts : Except String (List String × List String × Machine) :=
      match s.files, s.rest with
      | [], [] => .ok ([], [], m)
      | [], text :: rest => .ok ([text], rest, m)
      | files, rest => do
        let (texts, m) ← files.foldlM (fun ((texts, m) : List String × Machine) file =>
          match m.contents file with
          | .ok (text, m) => .ok (texts ++ [String.ofList text], m)
          | .error e => .error s!"cannot open \"{file}\" ({Machine.words e})") ([], m)
        return (texts, rest, m)
    match texts with
    | .error text => m.noteFailure 2 text
    | .ok ([], _, m) => (Awk.usage.foldl Machine.complain m).ends 0
    | .ok (texts, rest, m) =>
      match Awk.Script.read (String.intercalate "\n" texts) with
      | .error lines => (lines.foldl (fun m line => m.note line) m).ends 2
      | .ok script => (script.run exec m s.separator s.settings rest).finish 2

end ScriptBundle.Shell.Tool
