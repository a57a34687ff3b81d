import ScriptBundle.Shell.Machine
import ScriptBundle.Shell.Signal

/-!
# Background commands

A process keeps a list of the background commands that it has started. A place in the list is free
again when the command there is over and has been waited for, or has been shown as over.
-/

namespace ScriptBundle.Shell.Machine

/-- What became of a background command, if it is over. -/
def outcome? (m : Machine) (l : Listed) : Option Ended := m.ended.find? (·.number == l.number)

/-- Puts a background command into the first free place. -/
def list (m : Machine) (number stages : Nat) : Machine :=
  let kept := m.listed.filter fun l => !(l.isAwaited && (m.outcome? l).isSome)
  let place := ((List.range (kept.length + 1)).find? fun n =>
    kept.all (·.place != n + 1)).getD kept.length + 1
  { m with listed := ⟨place, number, stages, false⟩ :: kept }

def await (m : Machine) (chosen : Listed → Bool) : Machine :=
  { m with
    listed := m.listed.map fun l =>
      if chosen l && (m.outcome? l).isSome then { l with isAwaited := true } else l }

/-- The background command that an argument stands for, or what is wrong with it. -/
def listed? (m : Machine) (arg : String) : Except String Listed :=
  match arg.toList with
  | ['%'] | ['%', '%'] | ['%', '+'] => (m.listed.head?.map .ok).getD (.error "No current job")
  | ['%', '-'] => (m.listed.tail.head?.map .ok).getD (.error "No previous job")
  | '%' :: digits =>
    match (String.ofList digits).toNat?.bind fun n => m.listed.find? (·.place == n) with
    | some l => .ok l
    | none => .error s!"No such job: {arg}"
  | _ => .error s!"No such job: {arg}"

/-- How far a background command is. -/
def stateOf (m : Machine) (l : Listed) : String :=
  match m.outcome? l with
  | none => "Running"
  | some e =>
    if e.signal = 2 then "Interrupt"
    else if e.signal = 13 then "Broken pipe"
    else if e.signal ≠ 0 then (Signal.description? e.signal).getD ""
    else if e.status = 0 then "Done"
    else s!"Done({e.status})"

/-- Shows a background command. One that is over is no longer listed. -/
def showListed (m : Machine) (letter : Option Char) (l : Listed) : Machine :=
  let isAt (n : Nat) : Bool := (m.listed[n]?.map (·.number)) == some l.number
  let mark := if isAt 0 then "+" else if isAt 1 then "-" else " "
  let number := if letter = some 'l' then s!"{l.number} " else ""
  let start := s!"[{l.place}] {mark} {number}{m.stateOf l}"
  let stages := String.join (List.replicate (l.stages - 1) " | ")
  let line := start ++ String.ofList (List.replicate (max 1 (33 - start.length)) ' ') ++ stages
  let shown := m.print ((if letter = some 'p' then toString l.number else line) ++ "\n").toList
  if (m.outcome? l).isSome then
    { shown with listed := m.listed.filter (·.number != l.number) }
  else shown

end ScriptBundle.Shell.Machine
