import ScriptBundle.Shell.Condition
import ScriptBundle.Shell.Format
import ScriptBundle.Shell.Jobs
import ScriptBundle.Shell.Mask
import ScriptBundle.Shell.Recall
import ScriptBundle.Shell.Redirection

/-!
# Commands of the shell itself

These commands work on the running script: on its parameters and variables, its options, the place
where it goes on. Those that run other commands are not here. An error of one of them sets the flow to
`failed`; whether that ends the script is decided where the command is called.
-/

namespace ScriptBundle.Shell

/-- A command: takes a machine and arguments. -/
abbrev Builtin := Machine → List String → Machine

namespace Machine

/-! ### Arguments -/

/-- The option letters at the start of arguments, with their values, and the arguments left. A letter
that a colon follows in the list of known letters takes a value. -/
def readLetters (known : List Char) : Nat → List String →
    Except String (List (Char × String) × List String)
  | 0, args => .ok ([], args)
  | fuel + 1, args =>
    match args with
    | [] => .ok ([], [])
    | arg :: rest =>
      match arg.toList with
      | ['-', '-'] => .ok ([], rest)
      | '-' :: letter :: more => do
        let inner := if more.isEmpty then rest else String.ofList ('-' :: more) :: rest
        match if letter = ':' then [] else known.dropWhile (· ≠ letter) with
        | [] => throw s!"Illegal option -{letter}"
        | _ :: ':' :: _ =>
          if more.isEmpty then
            match rest with
            | [] => throw s!"No arg for -{letter} option"
            | value :: rest => do
              let (found, rest) ← readLetters known fuel rest
              return ((letter, value) :: found, rest)
          else do
            let (found, rest) ← readLetters known fuel rest
            return ((letter, String.ofList more) :: found, rest)
        | _ => do
          let (found, rest) ← readLetters known fuel inner
          return ((letter, "") :: found, rest)
      | _ => .ok ([], args)

def letters (known : String) (args : List String) :
    Except String (List (Char × String) × List String) :=
  readLetters known.toList (args.foldl (fun n arg => n + arg.length + 1) 1) args

/-- Goes on with the option letters and the other arguments. -/
def withLetters (known : String) (m : Machine) (args : List String)
    (body : List (Char × String) → List String → Machine) : Machine :=
  match letters known args with
  | .ok (found, rest) => body found rest
  | .error text => m.fail text

def number? (text : String) : Option Nat :=
  if text ≠ "" ∧ text.toList.all Char.isDigit then text.toNat?.filter (· < 2147483648) else none

/-- Goes on with the number of the first argument, or with another one if there is none. -/
def withNumber (m : Machine) (args : List String) (default : Nat) (body : Nat → Machine) : Machine :=
  match args with
  | [] => body default
  | text :: _ =>
    match number? text with
    | some n => body n
    | none => m.fail s!"Illegal number: {text}"

/-- A text in single quotes; runs of single quotes stand in double quotes. -/
def quotedText (text : List Char) : List Char :=
  go (text.length + 1) text
where
  go : Nat → List Char → List Char
    | 0, _ => []
    | fuel + 1, text =>
      let plain := text.takeWhile (· ≠ '\'')
      let rest := text.drop plain.length
      let quotes := rest.takeWhile (· == '\'')
      let start := '\'' :: plain ++ ['\'']
      if quotes.isEmpty then start
      else
        let rest := rest.drop quotes.length
        start ++ '"' :: quotes ++ ['"'] ++ (if rest.isEmpty then [] else go fuel rest)

def sortedNames (m : Machine) : List (String × Variable) :=
  m.bindings.mergeSort fun a b => a.1 ≤ b.1

/-- Lists variables, each with words in front of it. -/
def listVariables (m : Machine) (start : String) (shown : Variable → Bool) : Machine :=
  (m.sortedNames.filter fun (_, v) => shown v).foldl (fun m (name, v) =>
    let value := (v.value.map fun text => '=' :: quotedText text.toList).getD []
    m.print (start.toList ++ name.toList ++ value ++ ['\n'])) m

/-! ### Variables -/

/-- The name and the value of an argument that sets a variable. -/
def setting (arg : String) : String × Option String :=
  let chars := arg.toList
  let name := String.ofList (chars.takeWhile (· ≠ '='))
  match chars.dropWhile (· ≠ '=') with
  | _ :: value => (name, some (String.ofList value))
  | [] => (name, none)

/-- Sets a variable, unless its name is none or it is read only. -/
def set (m : Machine) (name value : String) : Machine :=
  if !isName name then m.fail s!"{name}: bad variable name"
  else if m.isReadOnly name then m.fail s!"{name}: is read only"
  else m.assign name value

/-- Does something for each argument as long as nothing fails. -/
def forAll (m : Machine) (args : List String) (body : Machine → String → Machine) : Machine :=
  args.foldl (fun m arg => if m.isRunning then body m arg else m) m

/-- Marks variables, and sets those that come with a value. -/
def markAll (mark : Variable → Variable) (m : Machine) (args : List String) : Machine :=
  m.forAll args fun m arg =>
    let (name, value) := setting arg
    if !isName name then m.fail s!"{name}: bad variable name"
    else
      let m := (value.map (m.set name)).getD m
      if m.isRunning then m.put name (mark ((m.bindings.lookup name).getD { value := none })) else m

def exportCommand : Builtin := fun m args =>
  withLetters "p" m args fun found names =>
    if names.isEmpty ∨ !found.isEmpty then (m.listVariables "export " (·.exported)).ends 0
    else markAll (fun v => { v with exported := true }) (m.ends 0) names

def readonlyCommand : Builtin := fun m args =>
  withLetters "p" m args fun found names =>
    if names.isEmpty ∨ !found.isEmpty then (m.listVariables "readonly " (·.readOnly)).ends 0
    else markAll (fun v => { v with readOnly := true }) (m.ends 0) names

/-- Remembers a variable of the caller. -/
def remember (m : Machine) (name : String) : Machine :=
  match m.frames with
  | [] => m
  | frame :: outer =>
    if (frame.saved.lookup name).isSome then m
    else
      let saved := (name, m.bindings.lookup name) :: frame.saved
      { m with frames := { frame with saved } :: outer }

/-- Remembers the options of the caller. -/
def rememberOptions (m : Machine) : Machine :=
  match m.frames with
  | [] => m
  | frame :: outer => { m with frames := { frame with options := frame.options.or m.options } :: outer }

/-- Begins a command with variables of its own. -/
def enterFrame (m : Machine) : Machine := { m with frames := {} :: m.frames }

/-- Gives back what belongs to the caller. -/
def leaveFrame (m : Machine) : Machine :=
  match m.frames with
  | [] => m
  | frame :: outer =>
    let m := frame.saved.foldl (fun m (name, old) =>
      match old with
      | some v => m.put name v
      | none => m.drop name) m
    { m with frames := outer, options := frame.options.getD m.options }

def localCommand : Builtin := fun m args =>
  if m.frames.isEmpty then m.fail "not in a function"
  else
    (m.ends 0).forAll args fun m arg =>
      let (name, value) := setting arg
      if name = "-" then m.rememberOptions
      else if !isName name then m.fail s!"{name}: bad variable name"
      else
        let m := m.remember name
        match value with
        | some text => m.set name text
        | none =>
          if (m.bindings.lookup name).isSome then m else m.put name { value := none }

def unset : Builtin := fun m args =>
  withLetters "fv" m args fun found names =>
    let isFunction := (found.getLast?.map (·.1)) == some 'f'
    (m.ends 0).forAll names fun m name =>
      if isFunction then { m with functions := m.functions.filter (·.1 != name) }
      else if !isName name then m.fail s!"{name}: bad variable name"
      else if m.isReadOnly name then m.fail s!"{name}: is read only"
      else if name = "PATH" then (m.drop name).forgetAll
      else m.drop name

/-! ### Options and parameters -/

/-- The names of the options and their letters; a few have none. -/
def optionNames : List (String × Option Char) :=
  [("errexit", some 'e'), ("noglob", some 'f'), ("ignoreeof", some 'I'), ("interactive", some 'i'),
    ("monitor", some 'm'), ("noexec", some 'n'), ("stdin", some 's'), ("xtrace", some 'x'),
    ("verbose", some 'v'), ("vi", some 'V'), ("emacs", some 'E'), ("noclobber", some 'C'),
    ("allexport", some 'a'), ("notify", some 'b'), ("nounset", some 'u'), ("privileged", some 'p'),
    ("nolog", none), ("debug", none)]

def setOption (m : Machine) (letter : Char) (on : Bool) : Machine :=
  if !optionLetters.contains letter then m.fail s!"Illegal option -{letter}"
  else
    let others := m.options.filter (· != letter)
    { m with options := if on then letter :: others else others }

def setNamedOption (m : Machine) (name : String) (on : Bool) : Machine :=
  match optionNames.lookup name with
  | some (some letter) => m.setOption letter on
  | some none => m
  | none => m.fail s!"Illegal option -o {name}"

/-- The settings of all options, to read or to run. -/
def listOptions (m : Machine) (toRead : Bool) : Machine :=
  let isOn (letter : Option Char) := letter.any m.has
  let line (name : String) (letter : Option Char) : String :=
    if toRead then
      name ++ String.ofList (List.replicate (16 - name.length) ' ') ++
        (if isOn letter then "on" else "off")
    else (if isOn letter then "set -o " else "set +o ") ++ name
  let lines := optionNames.map fun (name, letter) => line name letter
  let lines := if toRead then "Current option settings" :: lines else lines
  lines.foldl (fun m line => m.print (line ++ "\n").toList) m

/-- Sets the options of a group of letters. An `o` takes a name from the arguments. -/
def setLetters (on : Bool) : List Char → Machine → List String → Machine × List String
  | [], m, rest => (m, rest)
  | letter :: more, m, rest =>
    if !m.isRunning then (m, rest)
    else if letter = 'o' then
      match rest with
      | name :: rest => setLetters on more (m.setNamedOption name on) rest
      | [] => setLetters on more (m.listOptions on) []
    else setLetters on more (m.setOption letter on) rest

/-- Reads options, and gives the parameters that follow, if there are any or dashes ask for none. -/
def readOptions : Nat → Machine → List String → Machine × Option (List String)
  | 0, m, _ => (m, none)
  | fuel + 1, m, args =>
    match args with
    | [] => (m, none)
    | arg :: rest =>
      let some' (rest : List String) : Option (List String) := if rest.isEmpty then none else some rest
      match arg.toList with
      | ['-'] => ({ m with options := m.options.filter fun c => c != 'x' && c != 'v' }, some' rest)
      | ['-', '-'] => (m, some rest)
      | '-' :: group =>
        let (m, rest) := setLetters true group m rest
        if m.isRunning then readOptions fuel m rest else (m, none)
      | '+' :: group =>
        let (m, rest) := setLetters false group m rest
        if m.isRunning then readOptions fuel m rest else (m, none)
      | _ => (m, some args)

def setCommand : Builtin := fun m args =>
  if args.isEmpty then (m.listVariables "" (·.value.isSome)).ends 0
  else
    let (m, parameters) := readOptions (args.length + 1) (m.ends 0) args
    match parameters with
    | some arguments =>
      if m.isRunning then { m with arguments, letter := 0, nextOption := 1 } else m
    | none => m

def shift : Builtin := fun m args =>
  m.withNumber args 1 fun n =>
    if n > m.arguments.length then m.fail "can't shift that many"
    else { m with arguments := m.arguments.drop n, status := 0, letter := 0, nextOption := 1 }

/-- Reads the next option letter of arguments. -/
def getopts : Builtin := fun m args =>
  match args with
  | known :: name :: given =>
    let words := if given.isEmpty then m.arguments else given
    let index := m.nextOption - 1
    let quiet := known.startsWith ":"
    let letters := if quiet then known.toList.tail else known.toList
    let rest := ((if index = 0 then none else words[index - 1]?).getD "").toList.drop m.letter
    let inside := m.letter > 0 && index > 0 && !rest.isEmpty
    /- The letters of the present word, the number of the word behind it. -/
    let (word, next) : Option (List Char) × Nat :=
      if inside then (some rest, index)
      else
        match (words[index]?.getD "").toList with
        | ['-'] => (none, index)
        | ['-', '-'] => (none, index + 1)
        | '-' :: more => (some more, index + 1)
        | _ => (none, index)
    let finish (m : Machine) (letter : Char) (next left : Nat) (status : Nat) : Machine :=
      let m := m.assign "OPTIND" (toString (next + 1))
      let position := if left = 0 then 0 else (words[next - 1]?.getD "").length - left
      let m := { m with letter := position }
      let m := m.set name (String.singleton letter)
      if m.isRunning then m.ends status else m
    match word with
    | none | some [] => finish m '?' next 0 1
    | some (c :: more) =>
      match if c = ':' then [] else letters.dropWhile (· ≠ c) with
      | [] =>
        let m :=
          if quiet then m.assign "OPTARG" (String.singleton c)
          else (m.complain s!"Illegal option -{c}").drop "OPTARG"
        finish m '?' next more.length 0
      | _ :: ':' :: _ =>
        if !more.isEmpty then finish (m.assign "OPTARG" (String.ofList more)) c next 0 0
        else
          match words[next]? with
          | some value => finish (m.assign "OPTARG" value) c (next + 1) 0 0
          | none =>
            if quiet then finish (m.assign "OPTARG" (String.singleton c)) ':' next 0 0
            else finish ((m.complain s!"No arg for -{c} option").drop "OPTARG") '?' next 0 0
      | _ => finish (m.assign "OPTARG" "") c next more.length 0
  | _ => m.fail "Usage: getopts optstring var [arg...]"

/-! ### Going on elsewhere -/

def exit : Builtin := fun m args =>
  match args with
  | [] => { m with status := m.leavingStatus.getD m.status, flow := .exited }
  | _ => m.withNumber args 0 fun n => { m with status := n, flow := .exited }

def returnCommand : Builtin := fun m args =>
  m.withNumber args m.status fun n => { m with status := n, flow := .returning }

/-- Leaves loops, or goes on with their next round. -/
def leave (flow : Nat → Flow) : Builtin := fun m args =>
  m.withNumber args 1 fun n =>
    if n = 0 then m.fail ("Illegal number: " ++ args.headD "")
    else if m.loops = 0 then m.ends 0
    else { m with status := 0, flow := flow (min n m.loops) }

/-! ### Signals -/

def trap : Builtin := fun m args =>
  withLetters "" m args fun _ args =>
    match args with
    | [] =>
      let sorted := m.traps.mergeSort fun a b => a.1 ≤ b.1
      (sorted.foldl (fun m (signal, action) =>
        m.print ("trap -- ".toList ++ quotedText action.toList ++
          (s!" {Signal.name signal}\n").toList)) m).ends 0
    | first :: rest =>
      let isReset := rest.isEmpty || ((number? first).bind fun _ => Signal.read? first 0).isSome
      let action := if isReset || first = "-" then none else some first
      (if isReset then args else rest).foldl (fun m name =>
        if m.status ≠ 0 then m
        else
          match Signal.read? name 0 with
          | none => (m.complain s!"trap: {name}: bad trap").ends 1
          | some signal =>
            let others := m.traps.filter (·.1 != signal)
            { m with traps := (action.map ((signal, ·))).toList ++ others }) (m.ends 0)

/-- A signal reaches the process. -/
def receive (m : Machine) (signal : Nat) : Machine :=
  if m.ignores.contains signal then m
  else
    match if signal = 9 ∨ signal = 0 then none else m.traps.lookup signal with
    | some action => if action = "" then m else { m with signals := m.signals ++ [signal] }
    | none => if Signal.isHarmless signal then m else { m with flow := .killed signal }

/-- Sends a signal to a process, and says whether there is one. -/
def send (m : Machine) (number signal : Nat) : Machine × Bool :=
  if number = m.number ∨ number = 0 then (m.receive signal, true)
  else if m.waiting.any (·.number == number) then
    if Signal.isHarmless signal then (m, true)
    else
      ({ m with
        waiting := m.waiting.filter (·.number != number)
        ended := ⟨number, 128 + signal, signal, false⟩ :: m.ended }, true)
  else (m, false)

def killUsage : String :=
  "Usage: kill [-s sigspec | -signum | -sigspec] [pid | job]... or\nkill -l [exitstatus]"

/-- Sends a signal to each process of some arguments. -/
def sendAll (signal : Nat) (m : Machine) (targets : List String) : Machine :=
  if targets.isEmpty then m.fail killUsage
  else
    (m.ends 0).forAll targets fun m target =>
      let digits := if target.startsWith "-" then (target.drop 1).toString else target
      let wanted : Except String Nat :=
        if target.startsWith "%" then (m.listed? target).map (·.number)
        else ((number? digits).map .ok).getD (.error s!"Illegal number: {digits}")
      match wanted with
      | .error text => m.fail text
      | .ok number =>
        let (m, found) := m.send number signal
        if found then m else (m.warn "No such process\n").ends 1

def listSignals : Builtin := fun m args =>
  match args with
  | [] => (("0" :: Signal.names.tail).foldl (fun m name => m.print (name ++ "\n").toList) m).ends 0
  | _ => m.withNumber args 0 fun n =>
    let signal := if n > 128 then n - 128 else n
    if 0 < signal ∧ signal < Signal.names.length then
      (m.print (Signal.name signal ++ "\n").toList).ends 0
    else m.fail ("invalid signal number or exit status: " ++ args.headD "")

def kill : Builtin := fun m args =>
  match args with
  | [] => m.fail killUsage
  | first :: rest =>
    let direct := match first.toList with
      | '-' :: name => Signal.read? (String.ofList name) 1
      | _ => none
    match direct with
    | some signal => sendAll signal m rest
    | none =>
      withLetters "ls:" m args fun found targets =>
        match found.getLast? with
        | some ('l', _) => listSignals m targets
        | some (_, name) =>
          match Signal.read? name 1 with
          | some signal => sendAll signal m targets
          | none => m.fail s!"invalid signal number or name: {name}"
        | none => sendAll 15 m targets

/-! ### Directories -/

def directoryText (key : Key) : String := Octet.ofText ("/" ++ String.intercalate "/" key)

/-- Goes to another directory. -/
def changeDirectory : Builtin := fun m args =>
  withLetters "LP" m args fun _ args =>
    let wanted := args.head?.getD ((m.get? "HOME").getD "")
    let isBack := wanted = "-"
    let target := if isBack then (m.get? "OLDPWD").getD (directoryText m.files.start) else wanted
    let isPlain := target.startsWith "/" || target.startsWith "."
    let bases :=
      if isPlain then [""]
      else ((((m.get? "CDPATH").getD "").toList.splitOn ':').map String.ofList).filter (· ≠ "") ++ [""]
    let key? (base : String) : Option Key :=
      let path : Path := ⟨Octet.toText (if base = "" then target else base ++ "/" ++ target)⟩
      if target = "" then some m.files.start
      else if m.files.isDirectory path then (m.files.locate path).toOption
      else none
    match bases.findSome? fun base => (key? base).map fun key => (base, key) with
    | none => m.fail s!"can't cd to {wanted}"
    | some (base, key) =>
      let old := directoryText m.files.start
      let m := { m with files := { m.files with start := key }, status := 0 }
      let given (m : Machine) (name value : String) : Machine :=
        (m.assign name value).put name { value := some value, exported := true }
      let m := (given (given m "OLDPWD" old) "PWD" (directoryText key)).markRecalled
      if isBack || base ≠ "" then m.print (directoryText key ++ "\n").toList else m

/-! ### Reading a line -/

/-- A line on its way into variables. The last field ends at a cut, if there is one. -/
structure Splitting where
  fields : List (List Char) := []
  present : List Char := []
  /-- How many more fields there may be. -/
  room : Nat
  afterBlank : Bool := false
  cut : Option Nat := none

namespace Splitting

def add (separators : List Char) (s : Splitting) (c : Char) (hidden : Bool) : Splitting :=
  let separates := !hidden && separators.contains c
  let isBlank := separates && (c == ' ' || c == '\t' || c == '\n')
  if s.room = 0 then
    let longer := { s with present := c :: s.present }
    if hidden then { longer with afterBlank := false }
    else if isBlank then { longer with cut := some (s.cut.getD s.present.length) }
    else if separates && s.afterBlank then { longer with afterBlank := false }
    else { longer with afterBlank := false, cut := none }
  else if s.afterBlank && isBlank then s
  else if s.afterBlank && separates then { s with afterBlank := false }
  else if separates then
    if s.present.isEmpty && isBlank then s
    else if s.room = 1 then
      { s with room := 0, afterBlank := isBlank, cut := some s.present.length, present := c :: s.present }
    else
      { s with
        fields := s.present.reverse :: s.fields
        present := []
        room := s.room - 1
        afterBlank := isBlank }
  else { s with afterBlank := false, present := c :: s.present }

def finish (s : Splitting) : List (List Char) :=
  let last := s.present.reverse
  let last := (s.cut.map last.take).getD last
  (last :: s.fields).reverse

end Splitting

/-- The characters of a line, which of them a backslash hides, how many octets it takes, and whether
it has an end. -/
def lineOf (raw : Bool) : List UInt8 → List (Char × Bool) × Nat × Bool
  | [] => ([], 0, false)
  | 10 :: _ => ([], 1, true)
  | 0 :: rest =>
    let (line, n, ended) := lineOf raw rest
    (line, n + 1, ended)
  | b :: rest =>
    if b = 92 && !raw then
      match rest with
      | [] => ([], 1, false)
      | c :: rest =>
        let (line, n, ended) := lineOf raw rest
        (if c = 10 then line else (Octet.ofByte c, true) :: line, n + 2, ended)
    else
      let (line, n, ended) := lineOf raw rest
      ((Octet.ofByte b, false) :: line, n + 1, ended)

def setEach (m : Machine) : List String → List (List Char) → Machine
  | [], _ => m
  | name :: names, fields =>
    let m := m.set name (String.ofList (fields.headD []))
    if m.isRunning then setEach m names fields.tail else m

/-- Reads a line into variables. -/
def readLine : Builtin := fun m args =>
  withLetters "p:r" m args fun found names =>
    if names.isEmpty then m.fail "arg count"
    else
      match m.handleOf? 0 with
      | none => m.setEach names [] |>.ends 1
      | some handle =>
        let raw := found.any (·.1 == 'r')
        let (line, n, ended) := lineOf raw ((m.unread handle).toOption.getD [])
        let m := m.skip handle n
        let separators := Expand.separators m
        let s : Splitting := line.foldl (fun s (c, hidden) => s.add separators c hidden)
          { room := names.length }
        let m := m.setEach names s.finish
        if m.isRunning then m.ends (if ended then 0 else 1) else m

/-! ### Printing and testing -/

def printFormatted : Builtin := fun m args =>
  withLetters "" m args fun _ args =>
    match args with
    | [] => m.fail "usage: printf format [arg ...]"
    | format :: args =>
      let o := Format.printf format args
      let m := o.complaints.foldl warn (m.print o.out.reverse)
      match o.fault with
      | some text => m.fail text
      | none => m.ends (if o.complaints.isEmpty then 0 else 1)

def testCommand (m : Machine) (args : List String) : Machine :=
  match Condition.holds m (args.length + 1) args with
  | .ok b => m.ends (if b then 0 else 1)
  | .error text => m.fail text

def bracket : Builtin := fun m args =>
  if args.getLast? = some "]" then m.testCommand args.dropLast else m.fail "missing ]"

/-! ### Others -/

def maskCommand : Builtin := fun m args =>
  withLetters "S" m args fun found args =>
    let text := args.headD ""
    let refuse (what : String) : Machine := m.fail s!"Illegal {what}: {text}"
    match text.toList with
    | [] =>
      let shown := if found.isEmpty then Mask.shown m.mask else Mask.permitted m.mask
      (m.print (shown ++ "\n").toList).ends 0
    | c :: rest =>
      if c.isDigit then
        match Mask.ofDigits? (c :: rest) with
        | some mask => { m with mask, status := 0 }
        | none => refuse "number"
      else
        match Mask.changed? m.mask (c :: rest) with
        | some mask => { m with mask, status := 0 }
        | none => refuse "mode"

def limitCommand : Builtin := fun m args =>
  withLetters "HSatfdscmlpnvwr" m args fun found args =>
    let way := (found.reverse.find? fun f => f.1 == 'H' || f.1 == 'S').map (·.1)
    let isHard := way == some 'H'
    let isSoft := way == some 'S'
    let all := found.any (·.1 == 'a')
    let letter := ((found.reverse.find? fun f => f.1 ∉ ['H', 'S', 'a']).map (·.1)).getD 'f'
    let pad (name : String) : String :=
      name ++ String.ofList (List.replicate (20 - name.length) ' ') ++ " "
    match args with
    | [] =>
      if all then
        (m.limits.foldl (fun m l => m.print (pad l.name ++ l.shown isHard ++ "\n").toList) m).ends 0
      else
        (m.limits.foldl (fun m l =>
          if l.letter = letter then m.print (l.shown isHard ++ "\n").toList else m) m).ends 0
    | text :: rest =>
      if all || !rest.isEmpty then m.fail "too many arguments"
      else
        match m.limits.find? (·.letter == letter) with
        | none => m
        | some l =>
          match l.value? text with
          | none => m.fail "bad number"
          | some value =>
            match l.set? (!isHard) (!isSoft) value with
            | none => m.fail "error setting limit (Invalid argument)"
            | some changed =>
              { m with
                limits := m.limits.map fun l => if l.letter = letter then changed else l
                status := 0 }

def jobsCommand : Builtin := fun m args =>
  withLetters "lp" m args fun found args =>
    let letter := (found.getLast?.map (·.1))
    let m := m.ends 0
    if args.isEmpty then m.listed.foldl (fun m l => m.showListed letter l) m
    else
      m.forAll args fun m arg =>
        match m.listed? arg with
        | .ok l => m.showListed letter l
        | .error text => m.fail text

/-- Would go on with a background command, if there were a terminal. -/
def resume : Builtin := fun m args =>
  withLetters "" m args fun _ args =>
    match m.listed? (args.headD "%") with
    | .error text => m.fail text
    | .ok _ => m.fail ("job " ++ args.headD "(null)" ++ " not created under job control")

def aliasCommand : Builtin := fun m args =>
  let shown (name value : String) : List Char :=
    name.toList ++ '=' :: quotedText value.toList ++ ['\n']
  if args.isEmpty then
    ((m.aliases.mergeSort fun a b => placeOf 39 a.1 ≤ placeOf 39 b.1).foldl (fun m (name, value) =>
      m.print (shown name value)) m).ends 0
  else
    args.foldl (fun m arg =>
      match setting arg with
      | (name, some value) =>
        if (m.aliases.lookup name).isNone then { m with aliases := m.aliases ++ [(name, value)] }
        else
          { m with aliases := m.aliases.map fun a => if a.1 = name then (name, value) else a }
      | (name, none) =>
        match m.aliases.lookup name with
        | some value => m.print (shown name value)
        | none => (m.complain s!"alias: {name} not found").ends 1) (m.ends 0)

def unalias : Builtin := fun m args =>
  withLetters "a" m args fun found names =>
    if !found.isEmpty then { m with aliases := [], status := 0 }
    else
      names.foldl (fun m name =>
        if (m.aliases.lookup name).isSome then
          { m with aliases := m.aliases.filter (·.1 != name) }
        else (m.complain s!"unalias: {name} not found").ends 1) (m.ends 0)

def all : List (String × Builtin) := [
  (":", fun m _ => m.ends 0), ("true", fun m _ => m.ends 0), ("false", fun m _ => m.ends 1),
  ("echo", fun m args => (m.print (Format.echo args)).ends 0), ("printf", printFormatted),
  ("test", testCommand), ("[", bracket), ("exit", exit), ("return", returnCommand),
  ("break", leave .leaving), ("continue", leave .continuing), ("shift", shift), ("set", setCommand),
  ("export", exportCommand), ("readonly", readonlyCommand),
  ("local", localCommand), ("unset", unset),
  ("getopts", getopts), ("trap", trap), ("kill", kill), ("cd", changeDirectory),
  ("chdir", changeDirectory), ("read", readLine), ("alias", aliasCommand), ("unalias", unalias),
  ("pwd", fun m _ => (m.print (directoryText m.files.start ++ "\n").toList).ends 0),
  ("jobs", jobsCommand), ("fg", resume), ("bg", resume), ("umask", maskCommand),
  ("ulimit", limitCommand),
  ("times", fun m _ => (m.print "0m0.00s 0m0.00s\n0m0.00s 0m0.00s\n".toList).ends 0)]

def builtin? (name : String) : Option Builtin := all.lookup name

/-- Commands that run others, or have to know all commands. -/
def runners : List String := [".", "command", "eval", "exec", "hash", "wait", "type"]

def isBuiltin (name : String) : Bool := (builtin? name).isSome || runners.contains name

/-- The commands whose errors end the script, and before which assignments stay. -/
def specialNames : List String :=
  [".", ":", "break", "continue", "eval", "exec", "exit", "export", "local", "readonly", "return",
    "set", "shift", "times", "trap", "unset"]

/-- The commands whose arguments may set variables. -/
def settingNames : List String := ["alias", "export", "local", "readonly"]

/-- Writes what a command has printed, and adds a failure to its status. -/
def flush (m : Machine) (name : String) : Machine :=
  if m.unwritten.isEmpty then m
  else
    let bytes := m.unwritten.toList
    let m := { m with unwritten := #[] }
    match m.write 1 bytes with
    | .ok m => m
    | .error _ => { m.warn s!"{name}: I/O error" with status := m.status ||| 1 }

end Machine
end ScriptBundle.Shell
