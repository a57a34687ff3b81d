import ScriptBundle.Files.System
import ScriptBundle.Shell.Command
import ScriptBundle.Shell.Limit
import ScriptBundle.Shell.Octet

/-!
# The state of a running script

A running script has the file tree, its open files, its parameters and variables, and the status of
its last command. Open files are shared between a script and everything it starts, so that they keep
one position; which descriptor means which open file is each process's own.
-/

namespace ScriptBundle.Shell

/-- An open file. -/
inductive Handle where
  | device (kind : Device) (key : Key)
  /-- Gives zero bytes without end, and takes everything or nothing. -/
  | endless (takes : Bool)
  /-- Takes bytes and gives them back in order, like a pipe. -/
  | buffer (bytes : Array UInt8) (taken : Nat)
  | file (key : Key) (offset : Nat) (reads writes appends : Bool)
  | directory
  deriving DecidableEq, Repr

/-- The same open file under another key. -/
def Handle.at (key : Key) : Handle → Handle
  | .file _ offset reads writes appends => .file key offset reads writes appends
  | h => h

def Handle.key? : Handle → Option Key
  | .file key .. => some key
  | .device .. | .endless _ | .buffer .. | .directory => none

/-- How the script goes on. -/
inductive Flow where
  | running
  | exited
  /-- An error ends the script, or the command of the shell in which it arose. -/
  | failed
  | killed (signal : Nat)
  /-- On its way out of this many loops. -/
  | leaving (loops : Nat)
  /-- On its way to the next round, out of this many loops. -/
  | continuing (loops : Nat)
  /-- On its way out of a function or a script that was read in. -/
  | returning
  deriving DecidableEq, Repr

structure Variable where
  value : Option String
  exported : Bool := false
  readOnly : Bool := false
  deriving DecidableEq, Repr

/-- What became of a background command. The signal is zero if none ended it. -/
structure Ended where
  number : Nat
  status : Nat
  signal : Nat := 0
  /-- Whether it was said that a signal has ended it. -/
  isTold : Bool := false
  deriving DecidableEq, Repr

/-- A background command of a process: its place among them, its number, the number of programs that
it starts side by side, and whether the process has waited for it. -/
structure Listed where
  place : Nat
  number : Nat
  stages : Nat
  isAwaited : Bool := false
  deriving DecidableEq, Repr

/-- A command and the path at which it was found. It is marked if it has to be found anew. -/
structure Recalled where
  name : String
  path : String
  isMarked : Bool
  deriving DecidableEq, Repr

/-- What comes back when a command with variables of its own ends: variables as they were before, and
the options if they are its own too. -/
structure Frame where
  saved : List (String × Option Variable) := []
  options : Option (List Char) := none
  deriving DecidableEq, Repr

/-- What one process has for itself. A subshell starts from a copy of it. -/
structure Process where
  /-- The name of the script. -/
  name : String
  arguments : List String
  /-- The number of the process, which its subshells keep. -/
  number : Nat := 4242
  /-- The open file of each descriptor. -/
  descriptors : List (Nat × Nat) := []
  /-- What files that the process makes do not permit. -/
  mask : Mode := 0o022
  limits : List Limit := Limit.standard
  bindings : List (String × Variable) := []
  functions : List (String × Command) := []
  aliases : List (String × String) := []
  /-- The letters of the options that are set. -/
  options : List Char := []
  status : Nat := 0
  /-- The status of the last commands that ran for their output. -/
  substituted : Nat := 0
  flow : Flow := .running
  /-- What is run on a signal, and at the end for signal zero. -/
  traps : List (Nat × String) := []
  /-- Signals that were ignored when the process began, and are to its end. -/
  ignores : List Nat := []
  /-- Signals that have come and wait for what is run on them. -/
  signals : List Nat := []
  /-- The status with which the process ends while its last commands run. -/
  leavingStatus : Option Nat := none
  /-- The line of the command that runs, and the line up to which the script is read. -/
  line : Nat := 0
  reached : Nat := 1
  /-- The command of the shell that runs, for its messages. -/
  speaker : Option String := none
  /-- Loops around the command that runs. -/
  loops : Nat := 0
  /-- One frame for each command with variables of its own. -/
  frames : List Frame := []
  /-- Functions around the command that runs. -/
  calls : Nat := 0
  /-- The last background command. -/
  lastJob : Option Nat := none
  /-- The background commands, from the last one to the first. -/
  listed : List Listed := []
  /-- The commands that were found, in the order in which they were asked for. -/
  recalled : List Recalled := []
  /-- What the command that runs has printed and not yet written. -/
  unwritten : Array UInt8 := #[]
  /-- The number of the argument whose option letters are read next, and the position within it. -/
  nextOption : Nat := 1
  letter : Nat := 0
  isSubshell : Bool := false

/-- A background command that has not run yet: its number, its process, where it starts from, and
what it runs. -/
structure Job where
  number : Nat
  process : Process
  start : Key
  command : Command

/-- A process, and what it shares with all others. -/
structure Machine extends Process where
  files : FileTree
  /-- The keys of files that have several, together. -/
  shared : List (List Key) := []
  handles : Array Handle := #[]
  /-- The documents of the scripts, by number. -/
  documents : List (Nat × Word) := []
  nextDocument : Nat := 0
  /-- Background commands that wait for their turn. -/
  waiting : List Job := []
  /-- Background commands that are over. -/
  ended : List Ended := []
  nextNumber : Nat := 4243

instance : Inhabited Machine := ⟨{ files := FileTree.system [], name := "", arguments := [] }⟩

namespace Machine

def ends (m : Machine) (status : Nat) : Machine := { m with status }

def isRunning (m : Machine) : Bool := m.flow == .running

def has (m : Machine) (option : Char) : Bool := m.options.contains option

/-- The letters of the options, in their order. -/
def optionLetters : List Char := "efIimnsxvVECabup".toList

/-! ### Variables -/

def get? (m : Machine) (name : String) : Option String := (m.bindings.lookup name).bind (·.value)

def put (m : Machine) (name : String) (v : Variable) : Machine :=
  { m with bindings := (name, v) :: m.bindings.filter (·.1 != name) }

def drop (m : Machine) (name : String) : Machine :=
  { m with bindings := m.bindings.filter (·.1 != name) }

/-- Sets a variable and leaves its marks as they are. Setting the number of the next option argument
starts the reading of options anew, and setting the search path forgets where commands were found. -/
def assign (m : Machine) (name value : String) : Machine :=
  let old := (m.bindings.lookup name).getD { value := none }
  let m :=
    if name = "OPTIND" then { m with letter := 0, nextOption := value.toNat?.getD 1 }
    else if name = "PATH" then { m with recalled := [] }
    else m
  m.put name { old with value := some value, exported := old.exported || m.has 'a' }

def isReadOnly (m : Machine) (name : String) : Bool :=
  (m.bindings.lookup name).any (·.readOnly)

/-- The exported variables. -/
def environment (m : Machine) : List (String × String) :=
  m.bindings.filterMap fun (name, v) =>
    if v.exported then v.value.map (name, ·) else none

/-! ### Names of files -/

/-- The other keys of the file at a key. -/
def otherKeys (m : Machine) (key : Key) : List Key :=
  ((m.shared.find? (·.contains key)).getD []).filter (· != key)

/-- Puts a node at a key, and at the other keys of the file that is there. -/
def putNode (m : Machine) (key : Key) (node : Node) : Machine :=
  let put (t : FileTree) (key : Key) : FileTree := t.insert key node
  { m with files := put ((m.otherKeys key).foldl put m.files) key }

def setMode (m : Machine) (key : Key) (mode : Mode) : Machine :=
  { m with files := (key :: m.otherKeys key).foldl (fun t key => t.setMode key mode) m.files }

/-- Lets open files go on under another key. -/
def retarget (m : Machine) (key other : Key) : Machine :=
  { m with handles := m.handles.map fun h => if h.key? = some key then h.at other else h }

/-- A key that no path leads to. -/
def hiddenKey (n : Nat) : Key := ["", toString n]

/-- Takes a key away from the file that is there. If the file is open it stays, under another of its
keys or a hidden one. -/
def unname (m : Machine) (key : Key) : Machine :=
  let keys := m.otherKeys key
  let isOpen := m.descriptors.any fun (_, n) => (m.handles[n]?.bind Handle.key?) == some key
  let m :=
    match keys, isOpen, m.files.node? key with
    | other :: _, true, _ => m.retarget key other
    | [], true, some node =>
      let hidden := hiddenKey m.handles.size
      { m.retarget key hidden with files := m.files.insert hidden node }
    | _, _, _ => m
  let rest := m.shared.filter (!·.contains key)
  { m with
    files := m.files.erase key
    shared := if keys.length > 1 then keys :: rest else rest }

/-- Gives the file at a key one more key. -/
def addKey (m : Machine) (key other : Key) (node : Node) : Machine :=
  let m := m.unname other
  { m with
    files := m.files.insert other node
    shared := (other :: key :: m.otherKeys key) :: m.shared.filter (!·.contains key) }

/-- Gives what stands at and below a key another key instead. -/
def moveKey (m : Machine) (key other : Key) : Machine :=
  let moved := FileTree.movedKey key other
  let m := if (m.files.node? other).any Node.isFile then m.unname other else m
  { m with
    files := m.files.move key other
    shared := m.shared.map (·.map moved)
    handles := m.handles.map fun h => (h.key?.map fun k => h.at (moved k)).getD h }

/-! ### Open files -/

def handleOf? (m : Machine) (descriptor : Nat) : Option Nat := m.descriptors.lookup descriptor

/-- Lets a descriptor stand for an open file, or for none. -/
def point (m : Machine) (descriptor : Nat) (handle : Option Nat) : Machine :=
  let others := m.descriptors.filter (·.1 != descriptor)
  { m with descriptors := (handle.map ((descriptor, ·))).toList ++ others }

def addHandle (m : Machine) (h : Handle) : Machine × Nat :=
  ({ m with handles := m.handles.push h }, m.handles.size)

def setHandle (m : Machine) (number : Nat) (h : Handle) : Machine :=
  { m with handles := m.handles.setIfInBounds number h }

/-- Content with bytes written at an offset. -/
def overwrite (content : List UInt8) (offset : Nat) (bytes : List UInt8) : List UInt8 :=
  if offset = content.length then content ++ bytes
  else
    content.take offset ++ List.replicate (offset - content.length) 0 ++ bytes ++
      content.drop (offset + bytes.length)

/-- Writes to an open file. -/
def writeHandle (m : Machine) (number : Nat) (bytes : List UInt8) : Except FileError Machine :=
  match m.handles[number]? with
  | none => .error .badDescriptor
  | some .directory => .error .badDescriptor
  | some (.endless takes) => if takes || bytes.isEmpty then .ok m else .error .noSpace
  | some (.buffer old taken) =>
    let m := m.setHandle number .directory
    .ok (m.setHandle number (.buffer (old ++ bytes.toArray) taken))
  | some (.device kind key) =>
    match m.files.node? key with
    | some (.device _ taken) => do
      let node ← Node.deviceAfter kind taken bytes
      .ok { m with files := if taken.isEmpty && bytes.isEmpty then m.files else m.files.insert key node }
    | _ => .ok m
  | some (.file key offset reads writes appends) =>
    if !writes then .error .badDescriptor
    else
      match m.files.node? key with
      | some (.file content mode) =>
        let offset := if appends then content.length else offset
        let m := m.putNode key (.file (overwrite content offset bytes) mode)
        .ok (m.setHandle number (.file key (offset + bytes.length) reads writes appends))
      | _ => .ok m

def write (m : Machine) (descriptor : Nat) (bytes : List UInt8) : Except FileError Machine :=
  match m.handleOf? descriptor with
  | some number => m.writeHandle number bytes
  | none => .error .badDescriptor

/-- How many zero bytes are read of an open file that has no end. -/
def endless : Nat := 65536

/-- What is left to read of an open file, without reading it. -/
def unread (m : Machine) (number : Nat) : Except FileError (List UInt8) :=
  match m.handles[number]? with
  | none => .error .badDescriptor
  | some .directory => .error .isADirectory
  | some (.buffer bytes taken) => .ok (bytes.extract taken bytes.size).toList
  | some (.endless _) => .ok (List.replicate endless 0)
  | some (.device ..) => .ok []
  | some (.file key offset reads _ _) =>
    if !reads then .error .badDescriptor
    else
      match m.files.node? key with
      | some (.file content _) => .ok (content.drop offset)
      | _ => .ok []

/-- Passes over bytes of an open file. -/
def skip (m : Machine) (number count : Nat) : Machine :=
  match m.handles[number]? with
  | some (.buffer bytes taken) => m.setHandle number (.buffer bytes (min bytes.size (taken + count)))
  | some (.file key offset reads writes appends) =>
    m.setHandle number (.file key (offset + count) reads writes appends)
  | _ => m

/-- What is left to read of a descriptor, and the machine after reading it. -/
def readAll (m : Machine) (descriptor : Nat) : Except FileError (List UInt8 × Machine) :=
  match m.handleOf? descriptor with
  | none => .error .badDescriptor
  | some number => do
    let bytes ← m.unread number
    .ok (bytes, m.skip number bytes.length)

/-- How a file is opened. -/
structure Opening where
  reads : Bool := false
  writes : Bool := false
  creates : Bool := false
  truncates : Bool := false
  appends : Bool := false
  /-- Refuses a regular file that is there. -/
  mustBeNew : Bool := false

namespace Opening

def reading : Opening := { reads := true }
def writing : Opening := { writes := true, creates := true, truncates := true }
def appending : Opening := { writes := true, creates := true, appends := true }

end Opening

/-- The descriptor that a name below the device directory stands for. -/
def descriptorNamed? (path : String) : Option Nat :=
  match path with
  | "/dev/stdin" => some 0
  | "/dev/stdout" => some 1
  | "/dev/stderr" => some 2
  | _ => if path.startsWith "/dev/fd/" then (path.drop 8).toString.toNat? else none

/-- The open file without end that a name below the device directory stands for. No node of a tree
holds bytes without end, so scripts know these files by their names alone. -/
def endlessNamed? (path : String) : Option Handle :=
  match path with
  | "/dev/zero" => some (.endless true)
  | "/dev/full" => some (.endless false)
  | _ => none

/-- Opens a path, given as octets. -/
def openPath (m : Machine) (path : String) (o : Opening) : Except FileError (Nat × Machine) :=
  match descriptorNamed? path, endlessNamed? path with
  | some descriptor, _ =>
    match m.handleOf? descriptor with
    | some number => .ok (number, m)
    | none => .error .notFound
  | none, some handle =>
    let (m, number) := m.addHandle handle
    .ok (number, m)
  | none, none => do
    let p : Path := ⟨Octet.toText path⟩
    let key ← m.files.locate p
    match m.files.node? key with
    | some (.directory _) =>
      if o.writes then .error .isADirectory
      else
        let (m, number) := m.addHandle .directory
        .ok (number, m)
    | some (.device kind _) =>
      if kind = .terminal then .error .noSuchDevice
      else
        let (m, number) := m.addHandle (.device kind key)
        .ok (number, m)
    | some (.file content mode) =>
      if o.mustBeNew then .error .alreadyExists
      else if FileTree.wantsDirectory p then .error .notADirectory
      else
        let m :=
          if o.truncates && !content.isEmpty then m.putNode key (.file [] mode) else m
        let (m, number) := m.addHandle (.file key 0 o.reads o.writes o.appends)
        .ok (number, m)
    | none =>
      if !o.creates then .error .notFound
      else if FileTree.wantsDirectory p then .error .isADirectory
      else
        let m := m.putNode key (.file [] (Mode.fresh.without m.mask))
        let (m, number) := m.addHandle (.file key 0 o.reads o.writes o.appends)
        .ok (number, m)

/-- Creates the file that a path leads to, or replaces its content. -/
def writeFile (m : Machine) (p : Path) (content : List UInt8) : Except FileError Machine := do
  let files ← m.files.writeAs (Mode.fresh.without m.mask) p content
  let m := { m with files }
  match files.locate p with
  | .ok key => return ((files.node? key).map (m.putNode key)).getD m
  | .error _ => return m

/-- Makes a directory, with a mode that is not masked. -/
def makeDirectory (m : Machine) (mode : Mode) (p : Path) : Except FileError Machine := do
  return { m with files := ← m.files.makeDirectory mode p }

/-- Runs something whose output is collected, and gives that output. -/
def collecting (m : Machine) (body : Machine → Machine) : List Char × Machine :=
  let (opened, number) := m.addHandle (.buffer #[] 0)
  let done := body (opened.point 1 (some number))
  let bytes := (done.unread number).toOption.getD []
  let done := done.setHandle number .directory
  (Octet.ofBytes bytes, { done with descriptors := m.descriptors })

/-- Keeps text for the standard output until the command that prints it ends. -/
def print (m : Machine) (chars : List Char) : Machine :=
  { m with unwritten := m.unwritten ++ (Octet.toBytes chars).toArray }

/-! ### Messages -/

/-- Writes a line to the error stream. -/
def complain (m : Machine) (text : String) : Machine :=
  match m.write 2 (Octet.toBytes (text ++ "\n").toList) with
  | .ok m => m
  | .error _ => m

/-- The start of the shell's own messages. -/
def heading (m : Machine) : String :=
  let speaker := (m.speaker.map (· ++ ": ")).getD ""
  s!"{m.name}: {m.line}: {speaker}"

/-- A message of the shell. -/
def warn (m : Machine) (text : String) : Machine := m.complain (m.heading ++ text)

/-- An error that ends the script, or the command of the shell in which it arises. -/
def fail (m : Machine) (text : String) : Machine :=
  { m.warn text with status := 2, flow := .failed }

/-- The system's words for a failure. -/
def words (e : FileError) : String :=
  (e.system?.map (·.1)).getD e.message

/-! ### Parameters -/

/-- The value of a parameter other than the list of all arguments. -/
def parameter? (m : Machine) (name : String) : Option String :=
  match name with
  | "#" => some (toString m.arguments.length)
  | "?" => some (toString m.status)
  | "$" => some (toString m.number)
  | "!" => m.lastJob.map toString
  | "-" => some (String.ofList (optionLetters.reverse.filter m.options.contains))
  | "0" => some m.name
  | _ =>
    match name.toNat? with
    | some n => if n = 0 then some m.name else m.arguments[n - 1]?
    | none => m.get? name

end Machine
end ScriptBundle.Shell
