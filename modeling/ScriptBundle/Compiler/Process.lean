import ScriptBundle.Files.Tree

/-!
# Compiler processes

Compiling is done by another program. All that a build knows of it is a launcher: for a file tree, a
program and its arguments, either the reason why the program could not be started or what it left
when it ended. Nothing else is assumed of it; it may change the file tree in any way.
-/

namespace ScriptBundle

inductive ExitStatus where
  | exited (code : Nat)
  | killed (signal : Nat)
  deriving DecidableEq, Repr

namespace ExitStatus

def success (s : ExitStatus) : Bool := s == .exited 0

/-- The names of the signals, the first at number one. -/
def signalNames : List String :=
  ["SIGHUP", "SIGINT", "SIGQUIT", "SIGILL", "SIGTRAP", "SIGABRT", "SIGBUS", "SIGFPE", "SIGKILL",
    "SIGUSR1", "SIGSEGV", "SIGUSR2", "SIGPIPE", "SIGALRM", "SIGTERM", "SIGSTKFLT", "SIGCHLD",
    "SIGCONT", "SIGSTOP", "SIGTSTP", "SIGTTIN", "SIGTTOU", "SIGURG", "SIGXCPU", "SIGXFSZ",
    "SIGVTALRM", "SIGPROF", "SIGWINCH", "SIGIO", "SIGPWR", "SIGSYS"]

def message : ExitStatus → String
  | .exited code => s!"exit status: {code}"
  | .killed signal =>
    match signal with
    | 0 => "signal: 0"
    | n + 1 =>
      match signalNames[n]? with
      | some name => s!"signal: {signal} ({name})"
      | none => s!"signal: {signal}"

end ExitStatus

/-- What a process leaves. -/
structure Finished where
  status : ExitStatus
  /-- What it wrote to its standard error stream. -/
  stderr : List UInt8
  files : FileTree
  deriving DecidableEq, Repr

/-- Starts a program with arguments and waits for its end. -/
abbrev Launcher := FileTree → String → List String → Except FileError Finished

end ScriptBundle
