import ScriptBundle.Files.Error
import ScriptBundle.Files.Mode
import ScriptBundle.Path

/-!
# File trees

A file tree is a finite map from keys to files and directories, together with the directory that
relative paths start from. A key is the list of names on the way down from the root; the root is
always a directory.

Operations take paths. A path is followed name by name, and every name but the last must lead to a
directory, so the file system's own failures come out of the walk: a missing directory on the way,
a file used as one, a directory where a file is wanted.

No node is a link, so `..` leads back to the directory that a name was taken in. No node makes a
reader wait or gives bytes without end: pipes, sockets and the devices that do are not among the nodes.
A mode says which files are programs, and never hinders reading or writing.

`node?_insert` and `node?_erase` say what the two changes do to the map.
-/

namespace ScriptBundle

/-- What a device does with bytes. One that can be opened gives none to a reader. -/
inductive Device where
  /-- Takes everything and keeps nothing. -/
  | null
  /-- Stands for an output of the program, and keeps what it takes. -/
  | output
  | errors
  /-- Stands for the input of the program, which is empty. -/
  | input
  /-- Cannot be opened. -/
  | terminal
  deriving DecidableEq, Repr

inductive Node where
  | file (content : List UInt8) (mode : Mode)
  | directory (mode : Mode)
  /-- A device, with what an output has taken. -/
  | device (kind : Device) (taken : List UInt8)
  deriving DecidableEq, Repr

namespace Node

def isDirectory : Node → Bool
  | .directory _ => true
  | .file .. | .device .. => false

def isFile : Node → Bool
  | .file .. => true
  | .directory _ | .device .. => false

/-- Whether it is a file that can be started. -/
def isProgram : Node → Bool
  | .file _ mode => mode.isExecutable
  | .directory _ | .device .. => false

def mode : Node → Mode
  | .file _ mode | .directory mode => mode
  | .device .. => Mode.fresh

/-- The same with another mode. The mode of a device stays. -/
def withMode (mode : Mode) : Node → Node
  | .file content _ => .file content mode
  | .directory _ => .directory mode
  | .device kind taken => .device kind taken

/-- What becomes of a device that bytes are written to. -/
def deviceAfter (kind : Device) (taken content : List UInt8) : Except FileError Node :=
  match kind with
  | .terminal => .error .noSuchDevice
  | .output | .errors => .ok (.device kind (taken ++ content))
  | .null | .input => .ok (.device kind taken)

end Node

/-- The names on the way down from the root. -/
abbrev Key := List String

structure FileTree where
  /-- Where relative paths start. -/
  start : Key
  entries : List (Key × Node)
  deriving DecidableEq, Repr

namespace FileTree

/-- What stands at a key. -/
def node? (t : FileTree) (key : Key) : Option Node :=
  match key with
  | [] => some (.directory Mode.directory)
  | _ => t.entries.lookup key

def insert (t : FileTree) (key : Key) (node : Node) : FileTree :=
  { t with entries := (key, node) :: t.entries.filter fun e => e.1 != key }

def erase (t : FileTree) (key : Key) : FileTree :=
  { t with entries := t.entries.filter fun e => e.1 != key }

/-- Gives what stands at a key a mode. It does not count as written. -/
def setMode (t : FileTree) (key : Key) (mode : Mode) : FileTree :=
  { t with entries := t.entries.map fun (k, node) => (k, if k = key then node.withMode mode else node) }

/-- Takes away everything at and below a key. -/
def eraseBelow (t : FileTree) (key : Key) : FileTree :=
  { t with entries := t.entries.filter fun e => !key.isPrefixOf e.1 }

/-- Where a key goes when what stands at another one moves. -/
def movedKey (key other k : Key) : Key :=
  if key.isPrefixOf k then other ++ k.drop key.length else k

/-- Gives what stands at and below a key another key, instead of what stood there. -/
def move (t : FileTree) (key other : Key) : FileTree :=
  { t with
    entries := (t.eraseBelow other).entries.map fun (k, node) => (movedKey key other k, node) }

theorem lookup_filter_ne (entries : List (Key × Node)) (key other : Key) :
    (entries.filter fun e => e.1 != key).lookup other =
      if other = key then none else entries.lookup other := by
  induction entries with
  | nil => simp
  | cons e rest ih =>
    obtain ⟨k, n⟩ := e
    by_cases hk : k = key
    · subst hk
      rw [List.filter_cons_of_neg (by simp), ih]
      by_cases ho : other = k
      · simp [ho]
      · simp [ho, List.lookup_cons, beq_eq_false_iff_ne.2 ho]
    · by_cases ho : other = k
      · subst ho
        simp [hk]
      · simp [hk, List.lookup_cons, beq_eq_false_iff_ne.2 ho, ih]

theorem node?_insert {key : Key} (h : key ≠ []) (t : FileTree) (node : Node) (other : Key) :
    (t.insert key node).node? other = if other = key then some node else t.node? other := by
  cases other with
  | nil => simp [node?, Ne.symm h]
  | cons name rest =>
    by_cases ho : name :: rest = key
    · subst ho
      simp [node?, insert]
    · simp [node?, insert, List.lookup_cons, ho, beq_eq_false_iff_ne.2 ho, lookup_filter_ne]

theorem node?_erase {key : Key} (h : key ≠ []) (t : FileTree) (other : Key) :
    (t.erase key).node? other = if other = key then none else t.node? other := by
  cases other with
  | nil => simp [node?, Ne.symm h]
  | cons name rest => simp [node?, erase, lookup_filter_ne]

/-- The greatest number of bytes in a name, and in a path with its end mark. -/
def nameLimit : Nat := 255
def pathLimit : Nat := 4096

/-- Goes on from a directory by one name. -/
def enter (t : FileTree) (key : Key) (name : String) : Except FileError Key :=
  match t.node? key with
  | none => .error .notFound
  | some (.file ..) | some (.device ..) => .error .notADirectory
  | some (.directory _) =>
    if name = "." then .ok key
    else if name = ".." then .ok key.dropLast
    else if name.utf8ByteSize > nameLimit then .error .nameTooLong
    else .ok (key ++ [name])

/-- The names of a path, empty ones left out. -/
def names (p : Path) : List String :=
  (p.segments.filter (!·.isEmpty)).map String.ofList

/-- Whether the spelling ends in a slash, which asks for a directory. -/
def wantsDirectory (p : Path) : Bool := p.spelling.toList.getLast? == some '/'

/-- The key that a path leads to. Something stands at every step before the last. -/
def locate (t : FileTree) (p : Path) : Except FileError Key :=
  if p.spelling = "" then .error .notFound
  else if p.spelling.toList.contains '\x00' then .error .nullInName
  else if p.spelling.utf8ByteSize ≥ pathLimit then .error .nameTooLong
  else (names p).foldlM t.enter (if p.isAbsolute then [] else t.start)

/-- What a path leads to. -/
def find (t : FileTree) (p : Path) : Except FileError Node := do
  let key ← t.locate p
  match t.node? key with
  | none => .error .notFound
  | some (.directory mode) => .ok (.directory mode)
  | some node => if wantsDirectory p then .error .notADirectory else .ok node

/-- Whether the path leads to a file or a directory. -/
def has (t : FileTree) (p : Path) : Bool := (t.find p).isOk

def isDirectory (t : FileTree) (p : Path) : Bool :=
  match t.find p with
  | .ok node => node.isDirectory
  | .error _ => false

def isFile (t : FileTree) (p : Path) : Bool :=
  match t.find p with
  | .ok node => node.isFile
  | .error _ => false

def read (t : FileTree) (p : Path) : Except FileError (List UInt8) := do
  match ← t.find p with
  | .file content _ => .ok content
  | .device .terminal _ => .error .noSuchDevice
  | .device .. => .ok []
  | .directory _ => .error .isADirectory

/-- Creates the file with a mode, or replaces its content. A file that is there keeps its mode. -/
def writeAs (t : FileTree) (mode : Mode) (p : Path) (content : List UInt8) :
    Except FileError FileTree := do
  let key ← t.locate p
  match t.node? key with
  | some (.directory _) => .error .isADirectory
  | some (.file _ mode) =>
    if wantsDirectory p then .error .isADirectory
    else .ok (t.insert key (.file content mode))
  | some (.device kind taken) =>
    if wantsDirectory p then .error .isADirectory
    else return t.insert key (← Node.deviceAfter kind taken content)
  | none =>
    if wantsDirectory p then .error .isADirectory
    else .ok (t.insert key (.file content mode))

/-- Creates the file or replaces its content. -/
def write (t : FileTree) (p : Path) (content : List UInt8) : Except FileError FileTree :=
  t.writeAs Mode.file p content

/-- Removes a file. -/
def remove (t : FileTree) (p : Path) : Except FileError FileTree := do
  let key ← t.locate p
  match ← t.find p with
  | .file .. | .device .. => .ok (t.erase key)
  | .directory _ => .error .isADirectory

def makeDirectory (t : FileTree) (mode : Mode) (p : Path) : Except FileError FileTree := do
  let key ← t.locate p
  match t.node? key with
  | none => .ok (t.insert key (.directory mode))
  | some _ => .error .alreadyExists

/-- Puts a node below a directory, with the directories that are missing on the way. -/
def plant (t : FileTree) (key : Key) : List String → Node → FileTree
  | [], _ => t
  | [name], node => t.insert (key ++ [name]) node
  | name :: rest, node =>
    let next := key ++ [name]
    let t := if (t.node? next).isSome then t else t.insert next (.directory Mode.directory)
    t.plant next rest node

/-- The names in a directory and what each stands for. -/
def children (t : FileTree) (key : Key) : List (String × Node) :=
  t.entries.filterMap fun (k, node) =>
    match k.getLast? with
    | some name => if k.dropLast = key then some (name, node) else none
    | none => none

/-- Everything below a directory, each with the names that lead to it. -/
def below (t : FileTree) (key : Key) : List (List String × Node) :=
  t.entries.filterMap fun (k, node) =>
    if key.isPrefixOf k && k.length > key.length then some (k.drop key.length, node) else none

end FileTree
end ScriptBundle
