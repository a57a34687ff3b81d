/-!
# Limits of a process

What a process may use of its system. Each limit has a letter, is counted in a unit, and holds in two
ways: as a soft limit, and as a hard one that the soft one never exceeds.
-/

namespace ScriptBundle.Shell

structure Limit where
  letter : Char
  /-- Its name with its unit, as it is listed. -/
  name : String
  unit : Nat
  soft : Option Nat := none
  hard : Option Nat := none
  deriving DecidableEq, Repr

namespace Limit

/-- The limits that a process starts with. -/
def standard : List Limit := [
  { letter := 't', name := "time(seconds)", unit := 1 },
  { letter := 'f', name := "file(blocks)", unit := 512 },
  { letter := 'd', name := "data(kbytes)", unit := 1024 },
  { letter := 's', name := "stack(kbytes)", unit := 1024, soft := some 8388608 },
  { letter := 'c', name := "coredump(blocks)", unit := 512, soft := some 0 },
  { letter := 'm', name := "memory(kbytes)", unit := 1024 },
  { letter := 'l', name := "locked memory(kbytes)", unit := 1024, soft := some 8388608,
    hard := some 8388608 },
  { letter := 'p', name := "process", unit := 1, soft := some 128604, hard := some 128604 },
  { letter := 'n', name := "nofiles", unit := 1, soft := some 20000, hard := some 20000 },
  { letter := 'v', name := "vmemory(kbytes)", unit := 1024 },
  { letter := 'w', name := "locks", unit := 1 },
  { letter := 'r', name := "rtprio", unit := 1, soft := some 0, hard := some 0 }]

/-- The limit in its unit. -/
def shown (l : Limit) (isHard : Bool) : String :=
  match if isHard then l.hard else l.soft with
  | none => "unlimited"
  | some n => toString (n / l.unit)

/-- The number of units that a text stands for; none within if there is no limit. -/
def value? (l : Limit) (text : String) : Option (Option Nat) :=
  if text = "unlimited" then some none
  else if text.toList.all Char.isDigit then
    some (some (text.toList.foldl (fun n c => n * 10 + (c.toNat - '0'.toNat)) 0 * l.unit))
  else none

/-- Sets a limit in one way or in both; none if the soft limit would exceed the hard one. -/
def set? (l : Limit) (isSoft isHard : Bool) (value : Option Nat) : Option Limit :=
  let changed : Limit :=
    { l with soft := if isSoft then value else l.soft, hard := if isHard then value else l.hard }
  match changed.soft, changed.hard with
  | _, none => some changed
  | none, some _ => none
  | some soft, some hard => if soft ≤ hard then some changed else none

end Limit
end ScriptBundle.Shell
