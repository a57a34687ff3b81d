import ScriptBundle.Files.Tree
import ScriptBundle.Regex.Basic
import ScriptBundle.Shell.Octet

/-!
# Wildcards of the shell

In a pattern a star stands for any run of characters, a question mark for any character, and brackets
for one character of a class. Characters that are quoted stand for themselves. Matched against the
file tree, a pattern stands for the paths that it fits, in order; a slash and a dot at the start of a
name must be written out.
-/

namespace ScriptBundle.Shell

/-- A character of a pattern. One that is quoted is never a wildcard. -/
structure Sign where
  char : Char
  quoted : Bool
  deriving DecidableEq, Repr

inductive Wildcard where
  | one (set : CharSet)
  | run
  deriving DecidableEq, Repr

namespace Wildcard

/-- The name of a class that signs begin with, behind its colon, and what follows it. -/
def className? (signs : List Sign) : Option (CharSet × List Sign) :=
  let name := (signs.takeWhile fun s => s.char != ':').map (·.char)
  match signs.drop name.length, CharSet.named? (String.ofList name) with
  | ⟨':', _⟩ :: ⟨']', _⟩ :: rest, some set => some (set, rest)
  | _, _ => none

/-- The members of brackets up to their end, and what follows; none if they have no end. -/
def members : Nat → Bool → List Sign → Option (CharSet × List Sign)
  | 0, _, _ => none
  | _, _, [] => none
  | fuel + 1, isFirst, s :: rest =>
    if s.char = ']' && !s.quoted && !isFirst then some (.empty, rest)
    else
      let single (c : Char) (rest : List Sign) : Option (CharSet × List Sign) :=
        match rest with
        | ⟨'-', false⟩ :: high :: after =>
          if high.char = ']' && !high.quoted then
            (members fuel false rest).map fun (set, rest) => (.union (.single c) set, rest)
          else (members fuel false after).map fun (set, rest) => (.union (.span c high.char) set, rest)
        | _ => (members fuel false rest).map fun (set, rest) => (.union (.single c) set, rest)
      match s, rest with
      | ⟨'[', false⟩, ⟨':', _⟩ :: inner =>
        match className? inner with
        | some (set, after) =>
          (members fuel false after).map fun (more, rest) => (.union set more, rest)
        | none => single '[' rest
      | ⟨'\\', false⟩, hidden :: after => single hidden.char after
      | s, rest => single s.char rest

/-- The wildcards that signs stand for. -/
def ofSigns : Nat → List Sign → List Wildcard
  | 0, _ => []
  | _, [] => []
  | fuel + 1, s :: rest =>
    if s.quoted then .one (.single s.char) :: ofSigns fuel rest
    else
      match s.char with
      | '*' => .run :: ofSigns fuel rest
      | '?' => .one .all :: ofSigns fuel rest
      | '\\' =>
        match rest with
        | hidden :: rest => .one (.single hidden.char) :: ofSigns fuel rest
        | [] => [.one (.single '\\')]
      | '[' =>
        let (negated, inside) :=
          match rest with
          | ⟨'!', false⟩ :: inside => (true, inside)
          | inside => (false, inside)
        match members (inside.length + 1) true inside with
        | some (set, after) => .one (if negated then set.complement else set) :: ofSigns fuel after
        | none => .one (.single '[') :: ofSigns fuel rest
      | c => .one (.single c) :: ofSigns fuel rest

def read (signs : List Sign) : List Wildcard := ofSigns (signs.length + 1) signs

def suffixes : List Char → List (List Char)
  | [] => [[]]
  | c :: rest => (c :: rest) :: suffixes rest

/-- What may be left of a text after one more wildcard, the longest rest first. -/
def restsAfter (rests : List (List Char)) : Wildcard → List (List Char)
  | .run => (rests.head?.map suffixes).getD []
  | .one set =>
    rests.filterMap fun
      | c :: rest => if set.has c then some rest else none
      | [] => none

/-- What may be left of a text when the wildcards stand for its start, the longest rest first. -/
def rests (ws : List Wildcard) (text : List Char) : List (List Char) := ws.foldl restsAfter [text]

/-- Whether the wildcards stand for a whole text. -/
def accepts (ws : List Wildcard) (text : List Char) : Bool := (rests ws text).any (·.isEmpty)

/-- A text without the shortest or the longest start that the wildcards stand for. -/
def trimStart (ws : List Wildcard) (longest : Bool) (text : List Char) : List Char :=
  let found := rests ws text
  (if longest then found.getLast? else found.head?).getD text

/-- Whether the wildcards stand for some end of a text. -/
def fitsEnd (ws : List Wildcard) (text : List Char) : Bool :=
  (List.range (text.length + 1)).any fun n => accepts ws (text.drop n)

/-- A text without the shortest or the longest end that the wildcards stand for. -/
def trimEnd (ws : List Wildcard) (longest : Bool) (text : List Char) : List Char :=
  let cuts := (List.range (text.length + 1)).filter fun n => accepts ws (text.drop n)
  let cut := if longest then cuts.head? else cuts.getLast?
  (cut.map text.take).getD text

/-! ### Paths -/

def isWild (signs : List Sign) : Bool :=
  signs.any fun s => !s.quoted && (s.char == '*' || s.char == '?' || s.char == '[')

/-- The text of signs; a backslash that is not quoted hides the next one. -/
def plain : List Sign → List Char
  | [] => []
  | ⟨'\\', false⟩ :: s :: rest => s.char :: plain rest
  | s :: rest => s.char :: plain rest

/-- The parts of a pattern between slashes. -/
def parts (signs : List Sign) : List (List Sign) := signs.splitOnP fun s => s.char == '/'

/-- The paths that are reached from the spelling of a path so far. -/
def reach (t : FileTree) : List (List Sign) → List Char → List (List Char)
  | [], found => if t.has ⟨Octet.toText (String.ofList found)⟩ then [found] else []
  | part :: rest, found =>
    let slash := if rest.isEmpty then [] else ['/']
    if !isWild part then reach t rest (found ++ plain part ++ slash)
    else
      let directory : Path := ⟨if found.isEmpty then "." else Octet.toText (String.ofList found)⟩
      let ws := read part
      let hiddenToo := part.head?.any (·.char == '.')
      match t.isDirectory directory, t.locate directory with
      | true, .ok key =>
        let names := [".", ".."] ++ (t.children key).map (Octet.ofText ·.1)
        let fitting := names.filter fun name =>
          (hiddenToo || name.toList.head? != some '.') && accepts ws name.toList
        fitting.flatMap fun name => reach t rest (found ++ name.toList ++ slash)
      | _, _ => []

/-- The paths that signs stand for, in order; none if they hold no wildcard or fit nothing. -/
def paths (t : FileTree) (signs : List Sign) : List String :=
  if isWild signs then
    ((reach t (parts signs) []).map String.ofList).mergeSort fun a b => a ≤ b
  else []

end Wildcard
end ScriptBundle.Shell
