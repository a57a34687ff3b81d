import ScriptBundle.Compiler.Process
import ScriptBundle.Shell.Run

/-!
# Launching programs

A launcher for the programs of the system and for executable files of the tree. It starts the program
as a system does, with an empty input, and waits until it and everything it has started in the
background are over.
-/

namespace ScriptBundle.Shell

/-- How deep the commands of a script are nested. -/
def fuel : Nat := 20000

/-- The variables that a program is started with. -/
def environment : List (String × Variable) :=
  [("PATH", { value := some Program.defaultPath, exported := true }),
    ("HOME", { value := some "/root", exported := true })]

/-- A process that is about to start a program: its input is empty, and its outputs are kept. -/
def idle (t : FileTree) : Machine :=
  { files := t
    name := ""
    arguments := []
    bindings := environment
    handles := #[.buffer #[] 0, .buffer #[] 0, .buffer #[] 0]
    descriptors := [(0, 0), (1, 1), (2, 2)] }

/-- Starts a program and lets it run to its end. -/
def launch : Launcher := fun t program args => do
  if (program :: args).any fun text => text.toList.contains '\x00' then throw .nullInArgument
  if program = "" then throw .notFound
  let name := Octet.ofText program
  let args := args.map Octet.ofText
  let path ← Program.search t Program.defaultPath name
  let _ ← Program.startPath t path name args
  let done ← Machine.start fuel (idle t) (name :: args)
  let body : Command → Machine → Machine := fun c m => Machine.run fuel false c m
  let ended := done.runJobs body Machine.jobLimit
  let status := match done.flow with
    | .killed signal => ExitStatus.killed signal
    | _ => .exited (done.status % 256)
  return { status, stderr := (ended.unread 2).toOption.getD [], files := ended.files }

end ScriptBundle.Shell
