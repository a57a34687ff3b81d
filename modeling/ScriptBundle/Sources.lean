import ScriptBundle.Error
import ScriptBundle.Pattern.Walk

/-!
# Source lists

A build's sources are given as plain paths and patterns. A pattern becomes the regular files that it
stands for, in path order; a pattern that stands for none is kept as it is written, so that checking
the sources can name it. Of several entries that are the same path the first one stays.
-/

namespace ScriptBundle.Sources

/-- Leaves out every path that is the same as an earlier one. -/
def dropRepeats (paths : List Path) : List Path :=
  paths.foldl (fun kept p => if kept.any (·.same p) then kept else kept ++ [p]) []

/-- The paths of one entry, given what patterns stand for and which paths are regular files. -/
def expandOne (glob : String → Except Pattern.Error (List Path)) (isFile : Path → Bool)
    (entry : String) : Except Error (List Path) := do
  let found ←
    if Pattern.hasWildcard entry then
      match glob entry with
      | .ok paths => pure ((paths.filter isFile).mergeSort Path.le)
      | .error cause => throw (.pattern entry cause)
    else pure []
  return if found = [] then [⟨entry⟩] else found

def expandWith (glob : String → Except Pattern.Error (List Path)) (isFile : Path → Bool)
    (entries : List String) : Except Error (List Path) := do
  return dropRepeats (← entries.mapM (expandOne glob isFile)).flatten

/-- What a pattern stands for in a file tree. -/
def glob (t : FileTree) (text : String) : Except Pattern.Error (List Path) := do
  return (← Pattern.parse text.toList).paths t

/-- The source list that the entries make in a file tree. -/
def expand (t : FileTree) (entries : List String) : Except Error (List Path) :=
  expandWith (glob t) t.isFile entries

end ScriptBundle.Sources
