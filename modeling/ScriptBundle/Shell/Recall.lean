import ScriptBundle.Shell.Program

/-!
# Commands that were found

A shell remembers where it has found the programs that it was asked for. It forgets them when its search
path is set, and when it goes to another directory they are marked until they are found anew. They are
listed by what the codes of their names leave.
-/

namespace ScriptBundle.Shell.Machine

/-- Where a name was looked up: the way to it, if it was found. -/
def lookUp (m : Machine) (name : String) : Except FileError String :=
  Program.search m.files ((m.get? "PATH").getD "") name

/-- Remembers where a command is found. -/
def rememberProgram (m : Machine) (name : String) : Machine :=
  if name.toList.contains '/' then m
  else
    let others := m.recalled.filter (·.name != name)
    match m.lookUp name with
    | .error _ => { m with recalled := others }
    | .ok path =>
      let fresh : Recalled := ⟨name, path, false⟩
      if others.length = m.recalled.length then { m with recalled := others ++ [fresh] }
      else { m with recalled := m.recalled.map fun r => if r.name = name then fresh else r }

def forgetAll (m : Machine) : Machine := { m with recalled := [] }

/-- Marks all commands, which are looked up anew when they are asked for. -/
def markRecalled (m : Machine) : Machine :=
  { m with recalled := m.recalled.map fun r => { r with isMarked := true } }

/-- The place of a name in a list with so many places. -/
def placeOf (places : Nat) (name : String) : Nat :=
  let codes := name.toList.map Char.toNat
  codes.foldl (· + ·) (codes.headD 0 * 16) % places

def listRecalled (m : Machine) : Machine :=
  (m.recalled.mergeSort fun a b => placeOf 31 a.name ≤ placeOf 31 b.name).foldl (fun m r =>
    m.print ((if r.isMarked then r.path ++ "*" else r.path) ++ "\n").toList) m

end ScriptBundle.Shell.Machine
