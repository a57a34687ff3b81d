import ScriptBundle.Error
import ScriptBundle.Log
import ScriptBundle.Text.Utf8

/-!
# Workspaces

The state that a build works on: the file tree and the log so far. A task reads and changes it and
may fail; what it changed before it failed stays changed.
-/

namespace ScriptBundle

structure Workspace where
  files : FileTree
  log : List Record := []
  deriving DecidableEq, Repr

abbrev Action := ExceptT Error (StateM Workspace)

namespace FileTree

/-- The text of a file. -/
def readText (t : FileTree) (p : Path) : Except FileError String := do
  match Utf8.decode? (← t.read p) with
  | some text => .ok (String.ofList text)
  | none => .error .notText

def writeText (t : FileTree) (p : Path) (text : String) : Except FileError FileTree :=
  t.write p (Utf8.encode text.toList)

end FileTree

namespace Action

def files : Action FileTree := return (← get).files

def setFiles (t : FileTree) : Action Unit := modify fun w => { w with files := t }

def report (level : Level) (origin : Origin) (text : String) : Action Unit :=
  modify fun w => { w with log := w.log ++ [⟨level, origin, text⟩] }

/-- A result as a task, its failure as an error. -/
def ofExcept (wrap : ε → Error) : Except ε α → Action α
  | .ok a => return a
  | .error e => throw (wrap e)

def readText (p : Path) : Action String := do
  ofExcept (.read p) ((← files).readText p)

def writeText (p : Path) (text : String) : Action Unit := do
  setFiles (← ofExcept (.write p) ((← files).writeText p text))

/-- Removes a file. -/
def remove (p : Path) : Action Unit := do
  setFiles (← ofExcept .cleanup ((← files).remove p))

/-- Removes a file if that is possible. -/
def discard (p : Path) : Action Unit := do
  match (← files).remove p with
  | .ok t => setFiles t
  | .error _ => return

end Action
end ScriptBundle
