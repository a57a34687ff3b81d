import ScriptBundle.Shell.Machine

/-!
# Starting programs

Which program a name or a path stands for, and with which arguments it starts. A program of the system
starts as itself. An executable file names an interpreter in its first line, with at most one
argument; the interpreter starts with the path of the file before the file's own arguments, and it may
be such a file in turn.
-/

namespace ScriptBundle.Shell

/-- Starts another program with its arguments, the first of which is its name, and gives what it
leaves; its status is that of the machine. -/
abbrev Exec := Machine → List String → Except FileError Machine

/-- A program of the system: takes what starts other programs, a machine, and arguments. -/
abbrev Program := Exec → Machine → List String → Machine

namespace Program

/-- How many octets of the first line count. -/
def lineLimit : Nat := 256

/-- How many interpreters may stand behind each other. -/
def interpreterLimit : Nat := 5

def isBlank (c : Char) : Bool := c == ' ' || c == '\t'

/-- The interpreter and its argument that the first line of a file names. -/
def interpreter? (content : List UInt8) : Option (String × Option String) :=
  match Octet.ofBytes (content.take lineLimit) with
  | '#' :: '!' :: rest =>
    let line := (rest.takeWhile (· ≠ '\n')).dropWhile isBlank
    let line := (line.reverse.dropWhile isBlank).reverse
    let path := line.takeWhile fun c => !isBlank c && c != '\x00'
    let argument := (line.drop path.length).dropWhile isBlank
    if path = [] then none
    else
      some (String.ofList path,
        if argument = [] then none else some (String.ofList (argument.takeWhile (· ≠ '\x00'))))
  | _ => none

/-- A program of the system that a path starts, the name it is called by, and its arguments. -/
structure Start where
  program : String
  name : String
  args : List String
  deriving DecidableEq, Repr

/-- The last name of a path. -/
def lastName (path : String) : String :=
  String.ofList ((path.toList.reverse.takeWhile (· ≠ '/')).reverse)

/-- What a path starts under a name. -/
def start (t : FileTree) : Nat → String → String → List String → Except FileError Start
  | 0, _, _, _ => .error .tooManyLinks
  | fuel + 1, path, name, args =>
    match t.find ⟨Octet.toText path⟩ with
    | .ok (.file content mode) =>
      if !mode.isExecutable then .error .permissionDenied
      else
        match interpreter? content with
        | none => .error .notExecutable
        | some (interpreter, argument) =>
          start t fuel interpreter interpreter (argument.toList ++ path :: args)
    | .ok _ => .error .permissionDenied
    | .error e =>
      if FileTree.isInstalled path then .ok ⟨lastName path, name, args⟩ else .error e

/-- What a path starts. -/
def startPath (t : FileTree) (path name : String) (args : List String) : Except FileError Start :=
  start t (interpreterLimit + 1) path name args

def defaultPath : String := "/usr/local/sbin:/usr/local/bin:/usr/sbin:/usr/bin:/sbin:/bin"

/-- The paths that a name without a slash may have, in the directories of a search path. -/
def candidates (searchPath name : String) : List String :=
  (searchPath.toList.splitOn ':').map fun directory =>
    if directory.isEmpty then name else String.ofList directory ++ "/" ++ name

/-- Where a name is found. A path stands for itself. -/
def search (t : FileTree) (searchPath name : String) : Except FileError String :=
  if name.toList.contains '/' then .ok name
  else if name.length > FileTree.nameLimit then .error .nameTooLong
  else
    let found (path : String) : Except FileError Unit :=
      match t.find ⟨Octet.toText path⟩ with
      | .ok node => if node.isProgram then .ok () else .error .permissionDenied
      | .error e => if FileTree.isInstalled path then .ok () else .error e
    let outcomes := (candidates searchPath name).map fun path => (path, found path)
    match outcomes.find? (·.2.isOk) with
    | some (path, _) => .ok path
    | none =>
      if outcomes.any fun (_, outcome) =>
        match outcome with
        | .error .permissionDenied => true
        | _ => false
      then .error .permissionDenied else .error .notFound

end Program
end ScriptBundle.Shell
