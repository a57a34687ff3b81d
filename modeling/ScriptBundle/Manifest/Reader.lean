import ScriptBundle.Manifest.Error

/-!
# Reading a manifest

A reader takes bytes from the front of a text. When it fails, what it left unread stays, so that the
brackets around a refused value can still be closed. A fault may have no place yet: such a fault
gets its place from the value around it, where reading stands when that value is done.
-/

namespace ScriptBundle.Manifest

structure Fault where
  cause : Cause
  /-- The number of bytes that follow the place of the fault. -/
  remaining? : Option Nat
  deriving DecidableEq, Repr

abbrev Reader := ExceptT Fault (StateM (List UInt8))

namespace Reader

/-- Fails at the end of what was read. -/
def fail (cause : Cause) : Reader α := do throw ⟨cause, some (← get).length⟩

/-- Fails with the next byte, which is not taken, counted in. -/
def failAtNext (cause : Cause) : Reader α := do throw ⟨cause, some ((← get).length - 1)⟩

/-- Fails without a place. -/
def failInside (cause : Cause) : Reader α := throw ⟨cause, none⟩

def peek? : Reader (Option Char) := return (← get).head?.map fun b => Char.ofNat b.toNat

def skip : Reader Unit := modify (·.drop 1)

def next? : Reader (Option Char) := do
  let c ← peek?
  skip
  return c

/-- The next byte after white space. -/
def peekPastBlanks? : Reader (Option Char) := do
  modify (·.dropWhile fun b => b == 32 || b == 10 || b == 9 || b == 13)
  peek?

def takeWhile (p : Char → Bool) : Reader (List Char) := do
  let taken := (← get).takeWhile fun b => p (Char.ofNat b.toNat)
  modify (·.drop taken.length)
  return taken.map fun b => Char.ofNat b.toNat

/-- Takes the rest of a word. -/
def word : List Char → Reader Unit
  | [] => return
  | c :: rest => do
    match ← next? with
    | none => fail .endInValue
    | some d => if c = d then word rest else fail .expectedIdent

/-- Gives a fault without a place the place where reading stands. -/
def placed (r : Reader α) : Reader α :=
  tryCatch r fun fault => do
    match fault.remaining? with
    | some _ => throw fault
    | none => fail fault.cause

/-- Runs the closing reader after the first one, whether that fails or not. The first fault counts,
with the place that the closing reader leads to if it has none. -/
def closedBy (r : Reader α) (close : Reader Unit) : Reader α :=
  placed <| do
    let result ← tryCatch (Except.ok <$> r) fun fault => return .error fault
    match result with
    | .ok a => close; return a
    | .error fault =>
      tryCatch close fun _ => return
      throw fault

/-- Runs a reader over a text. -/
def run (r : Reader α) (bytes : List UInt8) : Except Error α :=
  match ExceptT.run r bytes with
  | (.ok a, _) => .ok a
  | (.error fault, rest) =>
    let remaining := fault.remaining?.getD rest.length
    .error (Error.after fault.cause (bytes.take (bytes.length - remaining)))

end Reader
end ScriptBundle.Manifest
