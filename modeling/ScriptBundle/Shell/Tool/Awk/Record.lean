import ScriptBundle.Shell.Tool.Awk.State

/-!
# Variables, tables and records

How a program on records reads and changes what it works with: its variables, its tables, the record
and its fields, and the places that records come from and text goes to.
-/

namespace ScriptBundle.Shell.Tool.Awk

namespace Run

/-- Says why the program cannot go on. -/
def fail (text : String) : Run α := do
  modify fun s => { s with machine := s.machine.complain s!"{s.machine.name}: {text}", status := 2 }
  throw .broken

/-! ### Variables -/

def cellOf (x : String) : Run Cell := do
  let s ← get
  match s.frame.lookup x with
  | some c => return c
  | none =>
    match s.globals[x]? with
    | some c => return c
    | none =>
      let c : Cell := .fresh s.nextTable
      set { s with globals := s.globals.insert x c, nextTable := s.nextTable + 1 }
      return c

def putCell (x : String) (c : Cell) : Run Unit := modify fun s =>
  if s.frame.any (·.1 == x) then
    { s with frame := s.frame.map fun (y, d) => if y == x then (y, c) else (y, d) }
  else { s with globals := s.globals.insert x c }

/-- A variable of the program as a text. -/
def globalText (x : String) : Run String := do
  match (← get).globals[x]? with
  | some (.value v) => return v.toStr "%.6g"
  | _ => return ""

def textOf (v : Value) : Run String := do
  match v with
  | .num n => return Value.numText (← globalText "CONVFMT") n
  | v => return v.toStr ""

/-- A value as it is printed. -/
def printedText (v : Value) : Run String := do
  match v with
  | .num n => return Value.numText (← globalText "OFMT") n
  | v => return v.toStr ""

/-! ### Expressions to match -/

def regexOf (text : String) : Run Regex := do
  match (← get).regexes[text]? with
  | some r => return r
  | none =>
    match readRegex text with
    | .ok r =>
      modify fun s => { s with regexes := s.regexes.insert text r }
      return r
    | .error e =>
      let why :=
        if e.startsWith "Unmatched (" then "missing ')'"
        else if e.startsWith "Unmatched )" then "missing '('"
        else if e.startsWith "Invalid preceding" then "missing operand"
        else if e.startsWith "Invalid content" then "bad interval expression"
        else e
      fail s!"line 1: regular expression compile failed ({why})\n{text}"

/-- How a text splits others. -/
def splitterOf (text : String) : Run Splitter := do
  match text.toList with
  | [' '] => return .blanks
  | [] => return .each
  | [c] => return .at c
  | _ => return .matches (← regexOf text)

/-! ### The record -/

def setRecord (v : Value) : Run Unit := modify fun s =>
  { s with record := v, fields := #[], isSplit := false, isJoined := true }

def splitRecord : Run Unit := do
  let s ← get
  if !s.isSplit then
    let text := s.record.toStr "%.6g"
    let separator ← globalText "FS"
    let splitter ← splitterOf separator
    let chars := text.toList
    let apart := (← globalText "RS") == ""
    let pieces :=
      match splitter with
      | .at c =>
        if chars.isEmpty then []
        else if apart then (chars.splitOn '\n').flatMap fun (line : List Char) => line.splitOn c
        else chars.splitOn c
      | .matches r =>
        if apart && !chars.isEmpty then (chars.splitOn '\n').flatMap (Splitter.matches r).split
        else splitter.split chars
      | splitter => splitter.split chars
    modify fun s => { s with fields := (pieces.map Value.ofInput).toArray, isSplit := true }

def joinRecord : Run Unit := do
  if !(← get).isJoined then
    let separator ← globalText "OFS"
    let parts ← (← get).fields.toList.mapM textOf
    modify fun s => { s with record := .str (String.intercalate separator parts), isJoined := true }

def fieldCount : Run Nat := do
  splitRecord
  return (← get).fields.size

def record : Run Value := do
  joinRecord
  return (← get).record

/-- Gives the record some number of fields. -/
def resize (n : Nat) : Run Unit := do
  splitRecord
  modify fun s =>
    let fields := (s.fields.extract 0 n) ++ Array.replicate (n - s.fields.size) (Value.str "")
    { s with fields, isJoined := false }

def fieldLimit : Nat := 1000000

def field (n : Nat) : Run Value := do
  if n = 0 then record
  else
    splitRecord
    return (← get).fields.getD (n - 1) .unset

def setField (n : Nat) (v : Value) : Run Unit := do
  if n = 0 then
    let v := match v with
      | .num _ => v
      | v => Value.ofInput (v.toStr "%.6g").toList
    setRecord (.both (← textOf v) v.toNum)
    match v with
    | .str t => setRecord (.str t)
    | _ => return
  else if n > fieldLimit then fail s!"program limit exceeded: maximum number of fields size={fieldLimit}"
  else
    splitRecord
    if (← get).fields.size < n then resize n
    modify fun s => { s with fields := s.fields.setIfInBounds (n - 1) v, isJoined := false }

def valueOf (x : String) : Run Value := do
  if x == "NF" && !(← get).frame.any (·.1 == x) then return Value.ofNat (← fieldCount)
  match ← cellOf x with
  | .value v => return v
  | .fresh _ => return .unset
  | .table _ => fail s!"line 1: illegal reference to array {x}"

def setVariable (x : String) (v : Value) : Run Unit := do
  let isLocal := (← get).frame.any (·.1 == x)
  if x == "NF" && !isLocal then
    match v.toNum.toInt? with
    | some n => resize (min n.toNat fieldLimit)
    | none => return
  else
    if (x == "FS" || x == "RS") && !isLocal then splitRecord
    match ← cellOf x with
    | .table _ => fail s!"line 1: illegal reference to array {x}"
    | _ => putCell x (.value v)

/-! ### Tables -/

def tableOf (x : String) : Run Nat := do
  match ← cellOf x with
  | .table id => return id
  | .fresh id =>
    putCell x (.table id)
    return id
  | .value _ => fail s!"line 1: illegal reference to variable {x}"

def table (id : Nat) : Run Table := return ((← get).tables[id]?).getD {}

def putTable (id : Nat) (t : Table) : Run Unit := modify fun s => { s with tables := s.tables.insert id t }

def tick : Run Nat := modifyGet fun s => (s.clock, { s with clock := s.clock + 1 })

def hasItem (id : Nat) (key : String) : Run Bool := return (← table id).items.contains key

/-- Stores an item. A table whose keys all are whole numbers is remembered as such. -/
def putItem (id : Nat) (key : String) (isCount : Bool) (v : Value) : Run Unit := do
  let time ← tick
  modify fun s =>
    let t := (s.tables[id]?).getD {}
    let tables := s.tables.insert id {}
    let changed : Table := ⟨t.items.insert key (v, time), t.isCounted && isCount⟩
    { s with tables := tables.insert id changed }

/-- Reads an item, which is there afterwards. -/
def item (id : Nat) (key : String) (isCount : Bool) : Run Value := do
  match (← table id).items[key]? with
  | some (v, _) =>
    putItem id key isCount v
    return v
  | none =>
    putItem id key isCount .unset
    return .unset

def dropItem (id : Nat) (key : String) : Run Unit := do
  let t ← table id
  putTable id { t with items := t.items.erase key }

/-! ### Reading records -/

/-- The first record of a text that is not empty, and what follows it. -/
def cutRecord (text : List Char) : Run (Option (List Char × List Char)) := do
  if text.isEmpty then return none
  match (← globalText "RS").toList with
  | [] =>
    let text := text.dropWhile (· == '\n')
    if text.isEmpty then return none
    let rec lines : Nat → List Char → List Char → List Char × List Char
      | 0, taken, text => (taken.reverse, text)
      | fuel + 1, taken, text =>
        match text with
        | '\n' :: '\n' :: rest => (taken.reverse, rest.dropWhile (· == '\n'))
        | ['\n'] => (taken.reverse, [])
        | c :: rest => lines fuel (c :: taken) rest
        | [] => (taken.reverse, [])
    return some (lines (text.length + 1) [] text)
  | [c] =>
    let first := text.takeWhile (· ≠ c)
    return some (first, text.drop (first.length + 1))
  | chars =>
    let r ← regexOf (String.ofList chars)
    let whole : Regex.Text := text.toArray
    match (List.range (whole.size + 1)).findSome? fun i =>
        (r.matchAt? whole i).bind fun f => if f.whole.stop > f.whole.start then some f.whole else none with
    | some e => return some (whole.slice ⟨0, e.start⟩, whole.slice ⟨e.stop, whole.size⟩)
    | none => return some (text, [])

/-- A setting in front of a file, with its escapes replaced. -/
def setting? (text : String) : Option (String × String) :=
  let chars := text.toList
  let name := chars.takeWhile isNameChar
  if name.head?.any isNameStart && (chars.drop name.length).head? = some '=' then
    some (String.ofList name, unescaped (chars.drop (name.length + 1)))
  else none

def assignSetting (name value : String) : Run Unit := setVariable name (Value.ofInput value.toList)

/-- Opens the next file of the arguments. Tells whether there is one. -/
def openNext : Nat → Run Bool
  | 0 => return false
  | fuel + 1 => do
    let s ← get
    let count := (← valueOf "ARGC").toNum.toInt?.getD 0
    if (s.argument : Int) ≥ count then
      if s.anyFile then return false
      set { s with anyFile := true }
      modify fun s =>
        match s.machine.contents "-" with
        | .ok (text, machine) => { s with machine, main := some text }
        | .error _ => { s with main := some [] }
      return true
    else
      set { s with argument := s.argument + 1 }
      let id ← tableOf "ARGV"
      let arg ← match (← table id).items[toString s.argument]? with
        | some (v, _) => textOf v
        | none => pure ""
      if arg == "" then openNext fuel
      else
        match setting? arg with
        | some (name, value) =>
          assignSetting name value
          openNext fuel
        | none =>
          match (← get).machine.contents arg with
          | .ok (text, machine) =>
            modify fun s => { s with machine, main := some text, anyFile := true }
            setVariable "FILENAME" (.str arg)
            setVariable "FNR" (Value.ofNat 0)
            return true
          | .error .isADirectory =>
            modify fun s => { s with anyFile := true }
            fail s!"read error ({Machine.words .isADirectory})"
          | .error e => fail s!"cannot open \"{arg}\" ({Machine.words e})"

/-- The next record of the files. -/
def nextRecord : Nat → Run (Option (List Char))
  | 0 => return none
  | fuel + 1 => do
    match (← get).main with
    | none => if ← openNext 10000 then nextRecord fuel else return none
    | some text =>
      match ← cutRecord text with
      | some (first, rest) =>
        modify fun s => { s with main := some rest }
        return some first
      | none =>
        modify fun s => { s with main := none }
        if ← openNext 10000 then nextRecord fuel else return none

def count (x : String) : Run Unit := do
  setVariable x (.num (Num.add (← valueOf x).toNum (Num.ofNat 1)))

/-! ### Commands and files -/

/-- Writes what was printed so far. -/
def flush : Run Unit := modify fun s => { s with machine := s.machine.writeOut.1 }

/-- Runs a command of the shell, and gives its status. -/
def runCommand (m : Machine) (exec : Exec) (command : String) : Machine × Nat :=
  let own := m.status
  match exec m ["/bin/sh", "-c", command] with
  | .error _ => (m, 127)
  | .ok left =>
    match left.flow with
    | .killed signal => ({ left with flow := m.flow, status := own }, 256 + signal)
    | _ => ({ left with flow := m.flow, status := own }, left.status)

/-- Runs a command with some text as its input. -/
def feedCommand (m : Machine) (exec : Exec) (command : String) (text : List Char) : Machine × Nat :=
  let (opened, number) := m.addHandle (.buffer (Octet.toBytes text).toArray 0)
  let (left, status) := runCommand (opened.point 0 (some number)) exec command
  ({ left with descriptors := m.descriptors }, status)

def sinkOf (name : String) (append isCommand : Bool) : Run Sink := do
  match (← get).sinks.lookup name with
  | some sink => return sink
  | none =>
    let sink : Sink ←
      if isCommand then do
        flush
        pure (Sink.command [])
      else if name == "/dev/stdout" || name == "-" then pure Sink.output
      else if name == "/dev/stderr" then pure Sink.errors
      else
        match (← get).machine.openPath name (if append then .appending else .writing) with
        | .ok (number, machine) =>
          modify fun s => { s with machine }
          pure (Sink.handle number)
        | .error e => fail s!"cannot open \"{name}\" for output ({Machine.words e})"
    modify fun s => { s with sinks := s.sinks ++ [(name, sink)] }
    return sink

/-- Prints to a named place. -/
def sendTo (name : String) (append isCommand : Bool) (text : List Char) : Run Unit := do
  match ← sinkOf name append isCommand with
  | .output => modify fun s => { s with machine := s.machine.print text }
  | .errors => modify fun s =>
    { s with machine := ((s.machine.write 2 (Octet.toBytes text)).toOption).getD s.machine }
  | .handle number =>
    match (← get).machine.writeHandle number (Octet.toBytes text) with
    | .ok machine => modify fun s => { s with machine }
    | .error e => fail s!"close failed on file \"{name}\" ({Machine.words e})"
  | .command earlier => modify fun s =>
    { s with sinks := s.sinks.map fun (other, sink) =>
        if other == name then (other, Sink.command (text :: earlier)) else (other, sink) }

/-- Ends the output to a place; a command is run now. -/
def closeSink (name : String) (sink : Sink) : Run Nat := do
  modify fun s => { s with sinks := s.sinks.filter (·.1 != name) }
  match sink with
  | .command text =>
    modifyGet fun s =>
      let (machine, status) := feedCommand s.machine s.exec name text.reverse.flatten
      (status, { s with machine })
  | _ => return 0

/-- Ends what goes to a name and what is read from it. -/
def close (name : String) : Run Int := do
  let s ← get
  let feed := s.feeds.find? (·.name == name)
  set { s with feeds := s.feeds.filter (·.name != name) }
  match s.sinks.lookup name with
  | some sink => return (← closeSink name sink)
  | none =>
    match feed with
    | some feed => return feed.status
    | none => return -1

/-- Ends all output. -/
def closeAll : Run Unit := do
  for (name, sink) in (← get).sinks do
    let _ ← closeSink name sink
  flush

/-- The place that records are read from by a name. -/
def feedOf (name : String) (isCommand : Bool) : Run (Option Feed) := do
  match (← get).feeds.find? fun f => f.name == name && f.isCommand == isCommand with
  | some feed => return some feed
  | none =>
    let feed : Option Feed ←
      if isCommand then do
        flush
        modifyGet fun s =>
          let (text, machine) := s.machine.collecting fun m =>
            let (m, status) := runCommand m s.exec name
            { m with status }
          let status := machine.status
          (some ⟨name, true, text, status⟩, { s with machine := machine.ends s.machine.status })
      else
        match (← get).machine.contents (if name == "/dev/stdin" then "-" else name) with
        | .ok (text, machine) =>
          modify fun s => { s with machine }
          pure (some ⟨name, false, text, 0⟩)
        | .error .isADirectory => fail s!"read error ({Machine.words .isADirectory})"
        | .error _ => pure none
    match feed with
    | some feed =>
      modify fun s => { s with feeds := feed :: s.feeds }
      return some feed
    | none => return none

/-- The next record of a named place; none of them if it cannot be read. -/
def readFrom (name : String) (isCommand : Bool) : Run (Option (Option (List Char))) := do
  match ← feedOf name isCommand with
  | none => return none
  | some feed =>
    match ← cutRecord feed.left with
    | none => return some none
    | some (first, rest) =>
      modify fun s => { s with feeds := s.feeds.map fun (f : Feed) =>
        if f.name == name && f.isCommand == isCommand then { f with left := rest } else f }
      return some (some first)

end Run
end ScriptBundle.Shell.Tool.Awk
