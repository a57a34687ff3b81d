import ScriptBundle.Shell.Program
import ScriptBundle.Shell.Tool.Quoting

/-!
# Tools

What the tools of the system have in common: they read options and operands, read files or their
input, print, and complain under the name by which they were called. What a tool prints is written at
its end, or before a complaint.
-/

namespace ScriptBundle.Shell

/-- The options that a tool knows. A letter may be followed by a colon if it takes a value, and by two
if it may take one; a word stands for a letter. -/
structure Known where
  letters : String
  words : List (String × Char) := []
  /-- Whether operands end the options. -/
  inOrder : Bool := false

/-- The options of a tool, in their order, and its operands. -/
structure Options where
  found : List (Char × String) := []
  operands : List String := []

namespace Options

def has (o : Options) (letter : Char) : Bool := o.found.any (·.1 == letter)

/-- The last value that was given. -/
def value? (o : Options) (letter : Char) : Option String :=
  (o.found.reverse.find? (·.1 == letter)).map (·.2)

def values (o : Options) (letter : Char) : List String :=
  (o.found.filter (·.1 == letter)).map (·.2)

/-- The last of some letters that was given. -/
def lastOf? (o : Options) (letters : List Char) : Option Char :=
  (o.found.reverse.find? fun f => letters.contains f.1).map (·.1)

end Options

namespace Known

inductive Takes where
  | nothing
  | value
  | perhaps
  deriving DecidableEq

def takes? (k : Known) (letter : Char) : Option Takes :=
  match if letter = ':' then [] else k.letters.toList.dropWhile (· ≠ letter) with
  | [] => none
  | _ :: ':' :: ':' :: _ => some .perhaps
  | _ :: ':' :: _ => some .value
  | _ => some .nothing

/-- The letter that a word, or the start of one, stands for. -/
def letterOf (k : Known) (word : String) : Except String Char :=
  match k.words.lookup word with
  | some letter => .ok letter
  | none =>
    let fitting := k.words.filter fun (name, _) => name.startsWith word
    match (fitting.map (·.2)).eraseDups with
    | [] => .error s!"unrecognized option '--{word}'"
    | [letter] => .ok letter
    | _ =>
      let names := fitting.map fun (name, _) => s!" '--{name}'"
      .error s!"option '--{word}' is ambiguous; possibilities:{String.join names}"

def wordOf (k : Known) (letter : Char) : String :=
  ((k.words.find? (·.2 == letter)).map (·.1)).getD (String.singleton letter)

/-- Reads the letters of one argument, and the rest of the arguments if a value is missing. -/
def readGroup (k : Known) : List Char → List String → Except String (List (Char × String) × List String)
  | [], rest => .ok ([], rest)
  | letter :: more, rest =>
    match k.takes? letter with
    | none => .error s!"invalid option -- '{letter}'"
    | some .nothing => do
      let (found, rest) ← readGroup k more rest
      return ((letter, "") :: found, rest)
    | some .perhaps => .ok ([(letter, String.ofList more)], rest)
    | some .value =>
      if more.isEmpty then
        match rest with
        | [] => .error s!"option requires an argument -- '{letter}'"
        | value :: rest => .ok ([(letter, value)], rest)
      else .ok ([(letter, String.ofList more)], rest)

/-- Reads an option that is written as a word. -/
def readWord (k : Known) (text : List Char) (rest : List String) :
    Except String ((Char × String) × List String) := do
  let word := String.ofList (text.takeWhile (· ≠ '='))
  let value := text.dropWhile (· ≠ '=')
  let letter ← k.letterOf word
  let name := k.wordOf letter
  match k.takes? letter, value with
  | some .value, [] =>
    match rest with
    | [] => throw s!"option '--{name}' requires an argument"
    | value :: rest => return ((letter, value), rest)
  | some .nothing, _ :: _ => throw s!"option '--{name}' doesn't allow an argument"
  | _, value => return ((letter, String.ofList value.tail), rest)

def readAll (k : Known) : Nat → List String → Except String Options
  | 0, args => .ok { operands := args }
  | fuel + 1, args =>
    match args with
    | [] => .ok {}
    | arg :: rest =>
      match arg.toList with
      | ['-', '-'] => .ok { operands := rest }
      | '-' :: '-' :: text => do
        let (option, rest) ← k.readWord text rest
        let o ← readAll k fuel rest
        return { o with found := option :: o.found }
      | '-' :: letter :: more => do
        let (found, rest) ← k.readGroup (letter :: more) rest
        let o ← readAll k fuel rest
        return { o with found := found ++ o.found }
      | _ =>
        if k.inOrder then .ok { operands := args }
        else do
          let o ← readAll k fuel rest
          return { o with operands := arg :: o.operands }

def read (k : Known) (args : List String) : Except String Options := k.readAll (args.length + 1) args

end Known

namespace Machine

/-! ### Printing and complaining -/

/-- Writes what was printed so far, and says why it cannot. -/
def writeOut (m : Machine) : Machine × Option FileError :=
  if m.unwritten.isEmpty then (m, none)
  else
    let bytes := m.unwritten.toList
    let m := { m with unwritten := #[] }
    match m.write 1 bytes with
    | .ok m => (m, none)
    | .error e => (m, some e)

def printText (m : Machine) (text : String) : Machine := m.print text.toList

/-- A message of a tool. -/
def note (m : Machine) (text : String) : Machine := (m.writeOut.1).complain s!"{m.name}: {text}"

/-- A message of a tool that fails with a status. -/
def noteFailure (m : Machine) (status : Nat) (text : String) : Machine := (m.note text).ends status

/-- A message about wrong arguments. -/
def noteUsage (m : Machine) (status : Nat) (text : String) : Machine :=
  ((m.note text).complain s!"Try '{m.name} --help' for more information.").ends status

/-- The end of a tool that says in its own way that its output could not be written. -/
def finishWith (m : Machine) (failure : Nat) (what : FileError → String) : Machine :=
  match m.writeOut with
  | (m, none) => m
  | (m, some e) => m.noteFailure failure (what e)

/-- The end of a tool: writes what is left to write. -/
def finish (m : Machine) (failure : Nat) : Machine :=
  m.finishWith failure fun e => s!"write error: {words e}"


/-! ### Reading -/

/-- The path that an operand stands for. -/
def pathOf (operand : String) : Path := ⟨Octet.toText operand⟩

/-- What is read from an operand; a dash stands for the input. -/
def contents (m : Machine) (operand : String) : Except FileError (List Char × Machine) :=
  if operand = "-" then do
    let (bytes, m) ← m.readAll 0
    return (Octet.ofBytes bytes, m)
  else do
    let (number, opened) ← m.openPath operand .reading
    let bytes ← opened.unread number
    return (Octet.ofBytes bytes, opened.skip number bytes.length)

/-- What an operand leads to. -/
def nodeAt (m : Machine) (operand : String) : Except FileError Node := m.files.find (pathOf operand)

end Machine

namespace Tool

/-- A tool that knows some options and fails with a status. -/
def make (known : Known) (failure : Nat) (body : Options → Machine → Machine) : Program :=
  fun _ m args =>
    match known.read args with
    | .error text => m.noteUsage failure text
    | .ok o => (body o (m.ends 0)).finish failure

/-- The operands, or the input if there are none. -/
def inputs (o : Options) : List String := if o.operands.isEmpty then ["-"] else o.operands

/-- The lines of a text without their line feeds. -/
def linesOf (text : List Char) : List (List Char) :=
  if text.isEmpty then []
  else
    let parts := text.splitOn '\n'
    if parts.getLast? = some [] then parts.dropLast else parts

/-- Whether a text ends in the middle of a line. -/
def isCut (text : List Char) : Bool := text.getLast?.any (· != '\n')

/-- Lines with a line feed after each; a last one that had none gets none. -/
def unlines (cut : Bool) (lines : List (List Char)) : List Char :=
  let text := lines.flatMap fun line => line ++ ['\n']
  if cut then text.dropLast else text

/-- The pieces of a text up to and with each line feed. -/
def pieces (text : List Char) : List (List Char) :=
  let lines := (linesOf text).map (· ++ ['\n'])
  if isCut text then lines.dropLast ++ (lines.getLast?.map List.dropLast).toList else lines

/-- Goes over the operands of a tool that only reads. What cannot be read is told, and the tool goes on. -/
def forEach (o : Options) (m : Machine) (failure : Nat)
    (body : Machine → String → List Char → Machine) : Machine :=
  (inputs o).foldl (fun m operand =>
    match m.contents operand with
    | .ok (text, m) => body m operand text
    | .error e => m.noteFailure failure s!"{Quoting.ifNeeded operand}: {Machine.words e}") m

/-- All that the operands hold. -/
def gather (o : Options) (m : Machine) (failure : Nat) : List Char × Machine :=
  (inputs o).foldl (fun (text, m) operand =>
    match m.contents operand with
    | .ok (more, m) => (text ++ more, m)
    | .error e =>
      (text, m.noteFailure failure s!"{Quoting.ifNeeded operand}: {Machine.words e}")) ([], m)

def natural? (text : String) : Option Nat :=
  if text ≠ "" ∧ text.toList.all Char.isDigit then text.toNat? else none

/-- The factor that a letter behind a number stands for. -/
def factor? (suffix : String) : Option Nat :=
  match suffix with
  | "" => some 1
  | "b" => some 512
  | "kB" | "KB" => some 1000
  | "k" | "K" | "KiB" => some 1024
  | "MB" => some 1000000
  | "m" | "M" | "MiB" => some 1048576
  | "GB" => some 1000000000
  | "G" | "GiB" => some 1073741824
  | _ => none

/-- A number with a factor. -/
def size? (text : String) : Option Nat :=
  let digits := text.toList.takeWhile Char.isDigit
  if digits.isEmpty then none
  else
    (factor? (String.ofList (text.toList.drop digits.length))).map fun factor =>
      (String.ofList digits).toNat?.getD 0 * factor

end Tool
end ScriptBundle.Shell
