import ScriptBundle.Shell.Builtin
import ScriptBundle.Shell.Programs
import ScriptBundle.Shell.Reader

/-!
# Running a script

Commands are run one after another on a machine. The fuel bounds how deep commands are nested, and the
rounds of a loop have a bound of their own; a script that uses one of them up ends where it is.

A subshell runs on a copy of its process: afterwards the process is as it was before, and only what all
processes share has changed. The stages of a pipeline run one after the other, each with what the one
before has written. A background command waits until something asks for it, or the script ends.
-/

namespace ScriptBundle.Shell.Machine

/-- How often a loop goes round. -/
def rounds : Nat := 1000000

/-- How deep functions are called. -/
def callLimit : Nat := 1000

/-! ### Flow -/

/-- Ends a loop, or goes on to an outer one. -/
def leaveLoop (m : Machine) : Machine :=
  match m.flow with
  | .leaving n => { m with flow := if n ≤ 1 then .running else .leaving (n - 1) }
  | .continuing n => { m with flow := if n ≤ 1 then .running else .continuing (n - 1) }
  | _ => m

/-- After a round of a loop: whether there may be another one. -/
def nextRound (m : Machine) : Machine × Bool :=
  match m.flow with
  | .running => (m, true)
  | .continuing n =>
    if n ≤ 1 then ({ m with flow := .running }, true)
    else ({ m with flow := .continuing (n - 1) }, false)
  | _ => (m.leaveLoop, false)

/-- Ends a script that must not go on after a failed command. -/
def check (tested : Bool) (m : Machine) : Machine :=
  if m.has 'e' && !tested && m.status != 0 && m.isRunning then { m with flow := .exited } else m

/-- Runs a body while a test asks for it. The status is that of the last body. -/
def repeatWhile (test body : Machine → Machine) (whileTrue : Bool) : Nat → Nat → Machine → Machine
  | 0, _, m => { m with flow := .exited }
  | fuel + 1, last, m =>
    let m := test m
    if !m.isRunning then
      let status := m.status
      let (m, again) := m.nextRound
      if again then repeatWhile test body whileTrue fuel last m
      else if m.isRunning then m.ends last
      else m.ends status
    else if (m.status == 0) != whileTrue then m.ends last
    else
      let m := body m
      let status := m.status
      let (m, again) := m.nextRound
      if again then repeatWhile test body whileTrue fuel status m else m

/-- Runs a body for each value of a variable. -/
def repeatFor (body : Machine → Machine) (name : String) : List String → Machine → Machine
  | [], m => m
  | value :: rest, m =>
    let m := m.set name value
    if !m.isRunning then m
    else
      let (m, again) := (body m).nextRound
      if again then repeatFor body name rest m else m

/-! ### Texts of commands -/

def isEmpty : Command → Bool
  | .empty => true
  | _ => false

/-- Runs the commands of a source as they are read. If it has none, the status is zero. -/
def runSource (body : Command → Machine → Machine) : Nat → Bool → Reader.Source → Machine → Machine
  | 0, _, _, m => m
  | fuel + 1, hasRun, source, m =>
    match Reader.complete { source with nextDocument := m.nextDocument, aliases := m.aliases } with
    | .error e => { m with line := e.line }.fail e.message
    | .ok none => if hasRun then m else m.ends 0
    | .ok (some (c, next)) =>
      let m := { m with
        documents := next.documents ++ m.documents
        nextDocument := next.nextDocument
        reached := next.line }
      let m :=
        if m.has 'v' then
          let read := source.rest.take (source.rest.length - next.rest.length)
          (m.write 2 (Octet.toBytes read)).toOption.getD m
        else m
      let m := body c m
      if m.isRunning then runSource body fuel (hasRun || !isEmpty c) { next with documents := [] } m
      else m

def runText (body : Command → Machine → Machine) (text : List Char) (m : Machine) : Machine :=
  { runSource body (text.length + 2) false { rest := text } m with reached := m.reached }

/-! ### Processes -/

/-- What a process leaves to the one that has started it. -/
def leaveProcess (done before : Machine) : Machine :=
  { done with
    toProcess := { before.toProcess with
      status := done.status % 256
      flow := match done.flow with
        | .killed signal => .killed signal
        | _ => .running }
    files := { done.files with start := before.files.start } }

/-- Signals that are ignored stay so in a subshell. -/
def ignored (m : Machine) : List (Nat × String) := m.traps.filter (·.2 == "")

/-- Runs what is to run at the end of a process. -/
def atEnd (body : Command → Machine → Machine) (m : Machine) : Machine :=
  match m.flow, m.traps.lookup 0 with
  | .killed _, _ | _, none => m
  | _, some action =>
    let m := { m with traps := m.traps.filter (·.1 != 0) }
    let done := runText body action.toList
      { m with flow := .running, leavingStatus := some m.status, speaker := none }
    match done.flow with
    | .exited | .failed | .killed _ => done
    | _ => done.ends m.status

/-- Runs something in a subshell. -/
def subshell (body : Command → Machine → Machine) (inner : Machine → Machine) (m : Machine) :
    Machine :=
  let done := inner { m with isSubshell := true, traps := m.ignored, signals := [], listed := [] }
  leaveProcess (atEnd body done) m

/-- Takes the first background command that waits, and runs it. -/
def runJob (body : Command → Machine → Machine) (m : Machine) : Machine :=
  match m.waiting with
  | [] => m
  | job :: rest =>
    let begun : Machine := { m with
      toProcess := job.process
      files := { m.files with start := job.start }
      waiting := rest }
    let done := atEnd body (body job.command begun)
    let ended : Ended :=
      match done.flow with
      | .killed signal => ⟨job.number, 128 + signal, signal, false⟩
      | _ => ⟨job.number, done.status % 256, 0, false⟩
    { leaveProcess done m with
      status := m.status
      flow := m.flow
      ended := ended :: done.ended }

/-- Runs all background commands that wait, and those that they start. -/
def runJobs (body : Command → Machine → Machine) : Nat → Machine → Machine
  | 0, m => m
  | fuel + 1, m => if m.waiting.isEmpty then m else runJobs body fuel (runJob body m)

def jobLimit : Nat := 10000

/-- Says of a process that a signal has ended it. -/
def report (m : Machine) (signal : Nat) : Machine :=
  match Signal.description? signal with
  | some text => m.complain text
  | none => m

/-- Takes over what a process left; a line tells of a signal that has ended it. -/
def settle (m left : Machine) : Machine :=
  match left.flow with
  | .killed signal => ({ left with flow := m.flow }.report signal).ends (128 + signal)
  | _ => left

/-! ### Words of a command -/

/-- Expands the words of a command. After a command whose arguments may set variables, such words are
expanded like assignments. -/
def expandWords (sub : Substitute) : List Word → List String → Machine → List String × Machine
  | [], done, m => (done, m)
  | w :: rest, done, m =>
    let command := done.dropWhile fun text => text == "command"
    let setsVariables := command.head?.any fun name =>
      settingNames.contains name && (m.functions.lookup name).isNone
    let (texts, m) :=
      match if setsVariables then Reader.assignment? w else none with
      | some (name, value) =>
        let (text, m) := Expand.assigned sub m value
        ([name ++ "=" ++ String.ofList text], m)
      | none => Expand.fields sub m w
    if m.isRunning then expandWords sub rest (done ++ texts) m else (done, m)

/-- What a command is shown behind: the variable for it, with its expansions if they can be made. -/
def traceStart (m : Machine) (sub : Substitute) : List Char × Machine :=
  let text := ((m.get? "PS4").getD "").toList
  match Reader.documentOf text with
  | .error e => (text, { m with line := e.line }.warn e.message)
  | .ok w =>
    let (chars, done) := Expand.document sub { m with options := m.options.filter (· != 'x') } w
    let after := { done with options := m.options, flow := m.flow, status := m.status, line := m.line }
    (if done.isRunning then chars else text, after)

/-- Shows a command before it runs. -/
def traceCommand (m : Machine) (sub : Substitute) (error : Option Nat)
    (assigned : List (String × String)) (fields : List String) : Machine :=
  if !m.has 'x' then m
  else
    let (start, m) := m.traceStart sub
    let words := assigned.map (fun (name, value) => name ++ "=" ++ value) ++ fields
    let line := start ++ (String.intercalate " " words ++ "\n").toList
    match error with
    | none => m
    | some number => (m.writeHandle number (Octet.toBytes line)).toOption.getD m

/-- What a name stands for when it is asked about. -/
inductive Meaning where
  | word
  | replacement (text : String)
  | function
  | special
  | builtin
  | program (path : String)

def meaning? (m : Machine) (name : String) : Option Meaning :=
  if Reader.reservedWords.contains name then some .word
  else
    match m.aliases.lookup name with
    | some text => some (.replacement text)
    | none =>
      if specialNames.contains name then some .special
      else if (m.functions.lookup name).isSome then some .function
      else if isBuiltin name then some .builtin
      else
        match Program.search m.files ((m.get? "PATH").getD "") name with
        | .ok path =>
          match m.files.find ⟨Octet.toText path⟩ with
          | .ok node => if node.isProgram then some (.program path) else none
          | .error _ => if FileTree.isInstalled path then some (.program path) else none
        | .error _ => none

/-- Tells what a name stands for: as briefly as it can be called, or in words. A program that is asked
about is remembered. -/
def describe (brief : Bool) (m : Machine) (name : String) : Machine :=
  let isKnown := m.recalled.any (·.name == name)
  let say (m : Machine) (short long : String) : Machine :=
    m.print ((if brief then short else long) ++ "\n").toList
  match m.meaning? name with
  | some .word => say m name s!"{name} is a shell keyword"
  | some (.replacement text) =>
    say m s!"alias {name}={String.ofList (quotedText text.toList)}" s!"{name} is an alias for {text}"
  | some .function => say m name s!"{name} is a shell function"
  | some .special => say m name s!"{name} is a special shell builtin"
  | some .builtin => say m name s!"{name} is a shell builtin"
  | some (.program path) =>
    let path := ((m.recalled.find? (·.name == name)).map (·.path)).getD path
    let m := if isKnown then m else m.rememberProgram name
    say m path (if isKnown then s!"{name} is a tracked alias for {path}" else s!"{name} is {path}")
  | none => (if brief then m else m.print (name ++ ": not found\n").toList).ends 127

/-- Begins the process of another program: it has the exported variables alone. -/
def beginProgram (m : Machine) (name : String) : Machine :=
  { m with
    toProcess := {
      name
      arguments := []
      number := m.nextNumber
      descriptors := m.descriptors
      mask := m.mask
      limits := m.limits
      bindings := m.bindings.filter fun (_, v) => v.exported && v.value.isSome
      ignores := m.ignores ++ (m.ignored.map (·.1)).filter (· != 0) }
    nextNumber := m.nextNumber + 1 }

/-- The variables that a shell sets for itself. -/
def shellVariables (m : Machine) : Machine :=
  let given (m : Machine) (name value : String) : Machine :=
    if (m.get? name).isSome then m else m.put name { value := some value }
  let m := m.put "IFS" { value := some " \t\n" }
  let m := m.put "OPTIND" { value := some "1" }
  let m := given m "PATH" Program.defaultPath
  let m := given m "PS1" "# "
  let m := given m "PS2" "> "
  let m := given m "PS4" "+ "
  let m := given m "PPID" "1"
  m.put "PWD" { value := some (directoryText m.files.start), exported := true }

/-- What a shell is started with. -/
inductive Script where
  | text (chars : List Char)
  | file (path : String)
  | input

/-- Reads the arguments of a shell: its options, its script, and the script's arguments. -/
def readInvocation (m : Machine) (args : List String) : Script × Machine :=
  go (args.length + 1) m args none
where
  finish (m : Machine) (args : List String) (fromText : Option Bool) : Script × Machine :=
    match fromText, args with
    | some true, [] =>
      (.input, { m with line := 0 }.fail "-c requires an argument")
    | some true, text :: args =>
      (.text text.toList, { m with name := args.headD m.name, arguments := args.tail })
    | some false, args => (.input, { m with arguments := args })
    | none, [] => (.input, m)
    | none, path :: args => (.file path, { m with name := path, arguments := args })
  go : Nat → Machine → List String → Option Bool → Script × Machine
    | 0, m, args, fromText => finish m args fromText
    | fuel + 1, m, args, fromText =>
      match args with
      | [] => finish m [] fromText
      | arg :: rest =>
        match arg.toList with
        | ['-'] | ['-', '-'] => finish m rest fromText
        | '-' :: group =>
          let fromText := if group.contains 'c' then some true else fromText
          let fromText := if fromText.isNone && group.contains 's' then some false else fromText
          let (m, rest) := m.setLetters true (group.filter fun c => c != 'c' && c != 'l') rest
          if m.isRunning then go fuel m rest fromText else (.input, m)
        | '+' :: group =>
          let (m, rest) := m.setLetters false group rest
          if m.isRunning then go fuel m rest fromText else (.input, m)
        | _ => finish m args fromText

/-- The names of the shell itself. -/
def shellNames : List String := ["sh", "dash", "bash"]

/-- The text of a script, or why it cannot be read. -/
def readScript (m : Machine) (script : Script) : List Char × Machine :=
  match script with
  | .text chars => (chars, m)
  | .input =>
    match m.readAll 0 with
    | .ok (bytes, m) => (Octet.ofBytes bytes, m)
    | .error _ => ([], m)
  | .file path =>
    match m.openPath path .reading with
    | .error e =>
      ([], { m with name := "sh" }.fail s!"cannot open {path}: {openWords false e}")
    | .ok (number, opened) =>
      match opened.unread number with
      | .ok bytes => (Octet.ofBytes bytes, m)
      | .error _ => ([], m)

/-- Runs a shell in the process that was begun for it. -/
def runShell (body : Command → Machine → Machine) (args : List String) (m : Machine) : Machine :=
  let (script, m) := readInvocation m.shellVariables args
  let (text, m) := if m.isRunning then m.readScript script else ([], m)
  let done := if m.isRunning then m.runText body text else m
  atEnd body done

/-! ### Commands -/

/-- The status of a program that cannot be started: it is not there, or it is no program. -/
def startStatus (e : FileError) : Nat :=
  match e with
  | .notFound | .notADirectory | .nameTooLong | .tooManyLinks => 127
  | _ => 126

def startWords (e : FileError) : String :=
  match e with
  | .notFound | .notADirectory => "not found"
  | e => words e

/-- What is behind `command` and its options; none if it is asked to tell something. -/
def behindCommand : List String → Option (List String)
  | [] => none
  | arg :: rest =>
    match arg.toList with
    | ['-', '-'] => if rest.isEmpty then none else some rest
    | '-' :: letter :: group =>
      if (letter :: group).all (· == 'p') then behindCommand rest else none
    | _ => some (arg :: rest)

/-- Fields without `command` in front, and whether there was one. -/
def unwrap (m : Machine) : Nat → Bool → List String → Bool × List String
  | 0, wrapped, fields => (wrapped, fields)
  | fuel + 1, wrapped, fields =>
    match fields with
    | "command" :: rest =>
      if !wrapped && (m.functions.lookup "command").isSome then (wrapped, fields)
      else
        match behindCommand rest with
        | some inner => unwrap m fuel true inner
        | none => (true, fields)
    | _ => (wrapped, fields)

/-- Sets the variables before a command: for good, or for the command alone. -/
def setAll (sub : Substitute) (inFrame exported : Bool) :
    List (String × Word) → Machine → List (String × String) × Machine
  | [], m => ([], m)
  | (name, w) :: rest, m =>
    let (text, m) := Expand.assigned sub m w
    if !m.isRunning then ([], m)
    else
      let value := String.ofList text
      let recalled := m.recalled
      let m := (if inFrame then m.remember name else m).set name value
      let m := if inFrame then { m with recalled } else m
      if !m.isRunning then ([], m)
      else
        let m :=
          if inFrame || exported then
            m.put name { value := some value, exported := true }
          else m
        let (more, m) := setAll sub inFrame exported rest m
        ((name, value) :: more, m)

def leaveFramesTo (depth : Nat) : Nat → Machine → Machine
  | 0, m => m
  | fuel + 1, m => if m.frames.length > depth then leaveFramesTo depth fuel m.leaveFrame else m

/-- Goes on after an error within a command of the shell. -/
def recover (m before : Machine) : Machine :=
  { leaveFramesTo before.frames.length m.frames.length m with
    flow := .running
    arguments := before.arguments
    loops := before.loops
    calls := before.calls
    speaker := before.speaker
    descriptors := before.descriptors }

/-- Calls a command of the shell under its name, and writes what it has printed. Only for a special
one an error goes on to the script. -/
def callBuiltin (name : String) (special : Bool) (body : Machine → Machine) (m : Machine) : Machine :=
  let done := body { m with speaker := some name, unwritten := #[] }
  let done := { done.flush name with speaker := m.speaker }
  if done.flow == .failed && !special then done.recover m else done

/-- Calls a function: it has arguments of its own, and the loops around it are out of its reach. -/
def callFunction (body : Machine → Machine) (args : List String) (m : Machine) : Machine :=
  if m.calls ≥ callLimit then m.fail s!"Maximum function recursion depth ({callLimit}) reached"
  else
    let done := body { m with
      arguments := args, loops := 0, calls := m.calls + 1, letter := 0, nextOption := 1 }
    { done with
      arguments := m.arguments
      loops := m.loops
      calls := m.calls
      letter := m.letter
      nextOption := m.nextOption
      flow := if done.flow = .returning then .running else done.flow }

/-- Runs what is to run on the signals that have come. -/
def handleSignals (body : Command → Machine → Machine) (m : Machine) : Machine :=
  if m.signals.isEmpty || !m.isRunning then m
  else
    m.signals.foldl (fun m signal =>
      if !m.isRunning then m
      else
        match m.traps.lookup signal with
        | none => m
        | some action =>
          let done := m.runText body action.toList
          if done.isRunning then done.ends m.status else done) { m with signals := [] }

/-- The stages of a pipeline, each with what the one before has written. -/
def runStages (stage : Command → Machine → Machine) : List Command → Machine → Machine
  | [], m => m
  | [last], m => stage last m
  | first :: rest, m =>
    let (opened, number) := m.addHandle (.buffer #[] 0)
    let done := stage first (opened.point 1 (some number))
    runStages stage rest ({ done with descriptors := m.descriptors }.point 0 (some number))

/-- The first clause whose patterns fit a text. -/
def choose (sub : Substitute) (text : List Char) :
    List (List Word × Command) → Machine → Option Command × Machine
  | [], m => (none, m)
  | (patterns, body) :: rest, m =>
    let (fits, m) := patterns.foldl (fun (fits, m) w =>
      if fits || !m.isRunning then (fits, m)
      else
        let (ws, m) := Expand.pattern sub m w
        (Wildcard.accepts ws text, m)) (false, m)
    if !m.isRunning then (none, m)
    else if fits then (some body, m)
    else choose sub text rest m

/-- Waits for background commands: for all, or for those of some numbers. -/
def waitFor (body : Command → Machine → Machine) (m : Machine) (args : List String) : Machine :=
  let told (m : Machine) (e : Ended) : Machine :=
    if e.signal = 0 || e.isTold then m
    else
      { m.report e.signal with
        ended := m.ended.map fun other =>
          if other.number = e.number then { other with isTold := true } else other }
  withLetters "" m args fun _ args =>
    match args with
    | [] =>
      let m := m.runJobs body jobLimit
      (((m.listed.reverse.filterMap m.outcome?).foldl told m).await fun _ => true).ends 0
    | _ =>
      (m.ends 0).forAll args fun m arg =>
        let wanted : Except String Nat :=
          match number? arg with
          | some number => .ok number
          | none =>
            if arg.startsWith "%" then (m.listed? arg).map (·.number)
            else .error s!"Illegal number: {arg}"
        match wanted with
        | .error text => m.fail text
        | .ok number =>
          let m := if m.waiting.any (·.number == number) then m.runJobs body jobLimit else m
          match (m.listed.find? (·.number == number)).bind m.outcome? with
          | none => m.ends 127
          | some e => ((told m e).await (·.number == number)).ends e.status

/-- Reads a script in and runs it here. -/
def readIn (body : Command → Machine → Machine) (m : Machine) (args : List String) : Machine :=
  withLetters "" m args fun _ args =>
    match args with
    | [] => m.ends 0
    | name :: _ =>
      let paths := if name.toList.contains '/' then [name] else
        (Program.candidates ((m.get? "PATH").getD "") name).filter fun path =>
          m.files.isFile ⟨Octet.toText path⟩
      match paths with
      | [] => m.fail s!"{name}: not found"
      | path :: _ =>
        match m.openPath path .reading with
        | .error e => m.fail s!"cannot open {path}: {openWords false e}"
        | .ok (number, opened) =>
          let text := Octet.ofBytes ((opened.unread number).toOption.getD [])
          let done := { m with speaker := some path }.runText body text
          { done with flow := if done.flow = .returning then .running else done.flow }

/-- Forgets where commands were found, tells it, or looks some commands up. -/
def hash (m : Machine) (args : List String) : Machine :=
  withLetters "r" m args fun found names =>
    let m := m.ends 0
    if !found.isEmpty then m.forgetAll
    else if names.isEmpty then m.listRecalled
    else
      names.foldl (fun m name =>
        if name.toList.contains '/' || isBuiltin name || (m.functions.lookup name).isSome then m
        else
          let m := m.rememberProgram name
          if m.recalled.any (·.name == name) then m
          else (m.warn s!"{name}: not found").ends 1) m

/-- Remembers where the command of a stage of a pipeline is found, if its name is plain. -/
def recallStage (m : Machine) (stage : Command) : Machine :=
  match stage with
  | .simple _ _ (w :: _) _ =>
    match Reader.plain? w with
    | some name =>
      if isName name && !isBuiltin name && (m.functions.lookup name).isNone then m.rememberProgram name
      else m
    | none => m
  | _ => m

/-- Tells about a command, as its options ask. -/
def tell (m : Machine) (args : List String) : Machine :=
  withLetters "pvV" m args fun found names =>
    let wanted := found.filter (·.1 != 'p')
    match wanted.getLast?, names with
    | some (letter, _), name :: _ => describe (letter == 'v') (m.ends 0) name
    | _, _ => m.ends 0

mutual

/-- Runs a command. Where a test asks for its status, a failure never ends the script. -/
def run : Nat → Bool → Command → Machine → Machine
  | 0, _, _, m => { m with flow := .exited }
  | fuel + 1, tested, command, m =>
    if !m.isRunning || m.has 'n' then m
    else
      let body : Command → Machine → Machine := fun c m => run fuel false c m
      let sub : Substitute := fun c m =>
        let first := m.nextNumber
        let (text, done) := m.collecting fun m =>
          let m := m.subshell body fun m => run fuel false c m
          if m.waiting.any (·.number ≥ first) then m.runJobs body jobLimit else m
        let kept := text.filter (· ≠ '\x00')
        ((kept.reverse.dropWhile (· == '\n')).reverse,
          { done with status := m.status, substituted := done.status })
      match command with
      | .empty => m
      | .simple line assignments words redirects =>
        let (fields, m) := expandWords sub words [] { m with line, substituted := 0 }
        if !m.isRunning then m
        else
          let (wrapped, fields') := m.unwrap (fields.length + 1) false fields
          let name := fields'.headD ""
          let args := fields'.tail
          let isSpecial := !wrapped && specialNames.contains name
          let function? := if wrapped || isSpecial then none else m.functions.lookup name
          let runsBuiltin := function?.isNone && isBuiltin name
          let inFrame := !fields.isEmpty && !isSpecial
          let before := m
          let (targets, m) := m.targetsOf sub redirects
          if !m.isRunning then m
          else
            let (m, opened) := m.redirectAll targets
            if !opened then
              let m := m.restore before.toProcess redirects
              if isSpecial then { m with flow := .failed } else m.check tested
            else
              let m := if inFrame then m.enterFrame else m
              let (assigned, m) :=
                setAll sub inFrame (name == "exec" && !args.isEmpty) assignments m
              let finish (done : Machine) : Machine :=
                let done :=
                  if name == "exec" && runsBuiltin then done else done.restore before.toProcess redirects
                let done := if inFrame then done.leaveFrame else done
                (done.check tested).handleSignals body
              if !m.isRunning then m
              else
                let m := m.traceCommand sub (before.handleOf? 2) assigned fields
                if fields.isEmpty then finish (m.ends m.substituted)
                else
                  match function? with
                  | some c => finish (m.callFunction (fun m => run fuel tested c m) args)
                  | none =>
                    if !runsBuiltin then
                      let m := if assigned.any (·.1 == "PATH") then m else m.rememberProgram name
                      match start fuel m (name :: args) with
                      | .ok left => finish (m.settle left)
                      | .error e =>
                        let status := if name.toList.contains '/' then startStatus e else 127
                        finish ((m.warn s!"{name}: {startWords e}").ends status)
                    else
                      finish (m.callBuiltin name isSpecial fun m =>
                        match name with
                        | "eval" =>
                          m.runText (fun c m => run fuel tested c m)
                            (String.intercalate " " (if args.head? = some "--" then args.tail else args)).toList
                        | "." => m.readIn body args
                        | "wait" => m.waitFor body args
                        | "hash" => m.hash args
                        | "command" => m.tell args
                        | "type" => args.foldl (fun m name => m.describe false name) (m.ends 0)
                        | "exec" =>
                          let args := if args.head? = some "--" then args.tail else args
                          if args.isEmpty then m.ends 0
                          else
                            match start fuel m args with
                            | .ok left =>
                              { left with
                                traps := []
                                flow := if left.flow = .running then .exited else left.flow }
                            | .error e =>
                              { m.warn (args.headD "" ++ ": " ++ startWords e) with
                                status := startStatus e, flow := .exited }
                        | _ =>
                          match builtin? name with
                          | some f => f m args
                          | none => m)
      | .redirected line inner redirects =>
        let before := m
        let (targets, m) := { m with line }.targetsOf sub redirects
        if !m.isRunning then m
        else
          let (m, opened) := m.redirectAll targets
          (if opened then run fuel tested inner m else m).restore before.toProcess redirects
      | .seq first second => run fuel tested second (run fuel tested first m)
      | .both first second =>
        let m := run fuel true first m
        if m.isRunning && m.status == 0 then run fuel tested second m else m
      | .either first second =>
        let m := run fuel true first m
        if m.isRunning && m.status != 0 then run fuel tested second m else m
      | .negate inner =>
        let m := run fuel true inner m
        match m.flow with
        | .exited | .failed | .killed _ => m
        | _ => m.ends (if m.status = 0 then 1 else 0)
      | .pipe stages =>
        let done :=
          runStages (fun c m => (m.recallStage c).subshell body fun m => run fuel tested c m) stages m
        ({ done with descriptors := m.descriptors }.check tested).handleSignals body
      | .background line inner =>
        let (opened, null) := m.addHandle (.device .null ["dev", "null"])
        let number := m.nextNumber
        let process := { (opened.point 0 (some null)).toProcess with
          line, isSubshell := true, traps := m.ignored, signals := [], listed := [] }
        let stages := match inner with
          | .pipe stages => stages.length
          | _ => 1
        { opened.list number stages with
          waiting := m.waiting ++ [⟨number, process, m.files.start, inner⟩]
          lastJob := some number
          nextNumber := number + 1
          status := 0 }
      | .subshell line inner redirects =>
        let (targets, m) := { m with line }.targetsOf sub redirects
        if !m.isRunning then m
        else
          let done := m.subshell body fun m =>
            let (m, opened) := m.redirectAll targets
            if opened then run fuel tested inner m else { m with flow := .failed }
          (done.check tested).handleSignals body
      | .branch test yes no =>
        let m := run fuel true test m
        if !m.isRunning then m
        else if m.status = 0 then run fuel tested yes m
        else if isEmpty no then m.ends 0
        else run fuel tested no m
      | .loop whileTrue test inner =>
        let done := repeatWhile (fun m => run fuel true test m) (fun m => run fuel tested inner m)
          whileTrue rounds 0 { m with loops := m.loops + 1 }
        { done with loops := m.loops }
      | .each line name words inner =>
        let (values, m) := Expand.allFields sub { m with line } words
        if !m.isRunning then m
        else if values.isEmpty then m.ends 0
        else
          let done := repeatFor (fun m => run fuel tested inner m) name values
            { m with loops := m.loops + 1 }
          { done with loops := m.loops }
      | .choose line subject clauses =>
        let (text, m) := Expand.text sub { m with line } subject
        if !m.isRunning then m
        else
          let (inner, m) := choose sub text clauses m
          match inner with
          | some c => if isEmpty c then m.ends 0 else run fuel tested c m
          | none => if m.isRunning then m.ends 0 else m
      | .define name inner =>
        { m with functions := (name, inner) :: m.functions.filter (·.1 != name), status := 0 }

/-- Starts a program in a process of its own, which is over when it ends. -/
def start : Nat → Machine → List String → Except FileError Machine
  | 0, _, _ => .error .notFound
  | _, _, [] => .error .notFound
  | fuel + 1, m, name :: args => do
    let body : Command → Machine → Machine := fun c m => run fuel false c m
    let path ← Program.search m.files ((m.get? "PATH").getD "") name
    let begins ←
      match Program.startPath m.files path name args with
      | .error .notExecutable => .ok ⟨"sh", "/bin/sh", path :: args⟩
      | outcome => outcome
    let begun := m.beginProgram begins.name
    if shellNames.contains begins.program then
      return leaveProcess (begun.runShell body begins.args) m
    else
      match Programs.named? begins.program with
      | none => throw .notFound
      | some program =>
        let begun := if begins.program = "sleep" then begun.runJobs body jobLimit else begun
        return leaveProcess (program (fun m argv => start fuel m argv) begun begins.args) m

end

end ScriptBundle.Shell.Machine
