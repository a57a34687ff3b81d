/-!
# Signals

The names of signals in a script, and what becomes of a process that nothing catches a signal for.
-/

namespace ScriptBundle.Shell.Signal

/-- The names by number; zero stands for the end of a script. -/
def names : List String :=
  ["EXIT", "HUP", "INT", "QUIT", "ILL", "TRAP", "ABRT", "BUS", "FPE", "KILL", "USR1", "SEGV", "USR2",
    "PIPE", "ALRM", "TERM", "16", "CHLD", "CONT", "STOP", "TSTP", "TTIN", "TTOU", "URG", "XCPU",
    "XFSZ", "VTALRM", "PROF", "WINCH", "IO", "PWR", "SYS", "32", "33", "RTMIN", "RTMIN+1", "RTMIN+2",
    "RTMIN+3", "RTMIN+4", "RTMIN+5", "RTMIN+6", "RTMIN+7", "RTMIN+8", "RTMIN+9", "RTMIN+10",
    "RTMIN+11", "RTMIN+12", "RTMIN+13", "RTMIN+14", "RTMIN+15", "RTMAX-14", "RTMAX-13", "RTMAX-12",
    "RTMAX-11", "RTMAX-10", "RTMAX-9", "RTMAX-8", "RTMAX-7", "RTMAX-6", "RTMAX-5", "RTMAX-4",
    "RTMAX-3", "RTMAX-2", "RTMAX-1", "RTMAX"]

def name (signal : Nat) : String := names[signal]?.getD (toString signal)

/-- The signal that a name or a number stands for; a name may be written in small letters. -/
def read? (text : String) (least : Nat) : Option Nat :=
  match text.toNat? with
  | some n => if text.toList.all Char.isDigit && n < names.length then some n else none
  | none =>
    let wanted := text.toList.map Char.toUpper
    (names.findIdx? fun name => name.toList == wanted).bind fun n =>
      if least ≤ n then some n else none

/-- Signals that leave a process alone unless it catches them, and the null signal. -/
def isHarmless (signal : Nat) : Bool := [0, 17, 18, 19, 20, 21, 22, 23, 28].contains signal

/-- The line about a process that a signal has ended; none for a few of them. -/
def description? (signal : Nat) : Option String :=
  match signal with
  | 1 => some "Hangup"
  | 3 => some "Quit"
  | 4 => some "Illegal instruction"
  | 5 => some "Trace/breakpoint trap"
  | 6 => some "Aborted"
  | 7 => some "Bus error"
  | 8 => some "Floating point exception"
  | 9 => some "Killed"
  | 10 => some "User defined signal 1"
  | 11 => some "Segmentation fault"
  | 12 => some "User defined signal 2"
  | 14 => some "Alarm clock"
  | 15 => some "Terminated"
  | 16 => some "Stack fault"
  | 24 => some "CPU time limit exceeded"
  | 25 => some "File size limit exceeded"
  | 26 => some "Virtual timer expired"
  | 27 => some "Profiling timer expired"
  | 29 => some "I/O possible"
  | 30 => some "Power failure"
  | 31 => some "Bad system call"
  | n => if n ≥ 34 then some s!"Real-time signal {n - 34}" else none

end ScriptBundle.Shell.Signal
